import PageAudit.Command.Arguments
import PageAudit.Guarded.Audit
import PageAudit.Settings.EnvFile

/-!
# A run from the command line

A run takes its arguments, the environment and the files there are, and ends with an exit
status and two texts: the result on the output, the log of the run and what stopped it on the
error output.

Two parts of it are taken as they are, the reading of arguments and the loading of an environment
file (`Readers`); `readers` are those of this program.
-/
namespace PageAudit

open Guarded (Lapse)

/-- How a run ends. -/
structure Exit where
  status : Nat
  output : Text
  errors : Text
  deriving DecidableEq, Repr

namespace Command

/-- What the version option shows. -/
def versionText : Text := Text.unlines ["weensy-grader 0.1.0".toList]

/-- How the arguments are written. -/
def usageLine : Text := "Usage: weensy-grader [OPTIONS] --stage <STAGE>".toList

/-- What the help option shows.
mirrors src/main.rs:21-59 -/
def helpText : Text :=
  Text.unlines
    ["Check a WeensyOS memory dump against a virtual memory stage".toList,
      [],
      usageLine,
      [],
      "Options:".toList,
      "  -s, --stage <STAGE>  Stage to grade (1-4)".toList,
      "  -l, --log <LOG>      Log file holding the memory dump [default: log.txt]".toList,
      "  -w, --width <WIDTH>  Pages per row when re-dumping memory on failure".toList,
      "  -q, --quiet          Only log warnings and errors".toList,
      "  -h, --help           Print help".toList,
      "  -V, --version        Print version".toList]

/-! ## The audit of a run -/

/-- Why no log was audited. -/
inductive Failure
  /-- There is no such log file. -/
  | noLog (path : Text)
  /-- The log file could not be read. -/
  | noText (stage : Stage) (fault : Fault)
  deriving DecidableEq, Repr

/-- The failure in words.
mirrors src/main.rs:89-92,100 -/
def Failure.message : Failure → Text
  | noLog path => "log file ".toList ++ path ++ " not found; run the kernel first".toList
  | noText stage fault =>
    "cannot grade ".toList ++ stage.describe ++ ": ".toList ++ fault.message

/-- What the audit of a run comes to. -/
inductive Outcome
  /-- A log was audited. -/
  | report (r : Report)
  /-- None was. -/
  | failed (f : Failure)
  /-- An operation had no result. -/
  | aborted (cause : Lapse)
  deriving DecidableEq, Repr

/-- The last line of the output.
mirrors src/main.rs:110-114 -/
def closing (r : Report) : Text :=
  r.stage.describe ++ (if r.verdict.passed then " PASSED" else " FAILED").toList

/-- The width of rows: that of the arguments, if they give one, before that of the settings.
mirrors src/main.rs:85-86 -/
def auditor (args : Arguments) (env : Environment) : Auditor :=
  Auditor.default.withWidth (args.width.getD env.width)

/-- Which records to show: under `quiet`, warnings and errors, whatever the settings say.
mirrors src/main.rs:65 -/
def threshold (args : Arguments) (env : Environment) : Threshold :=
  if args.quiet then ⟨some .warn⟩ else env.threshold

/-- The record that a run starts with.
mirrors src/main.rs:94 -/
def startRecord (args : Arguments) : Record :=
  ⟨.debug, "grading ".toList ++ args.stage.describe ++ " from ".toList ++ args.log⟩

/-- The audit that the arguments ask for, and the log of the run. An audit lapses only where it makes
rows, when all its records are made.
mirrors src/main.rs:83-104 -/
def audit (args : Arguments) (env : Environment) (files : Storage) : List Record × Outcome :=
  if files.isPresent args.log then
    match files.readText args.log with
    | .error cause =>
      ([startRecord args], .failed (.noText args.stage (.unreadable args.log cause)))
    | .ok log =>
      match Guarded.auditLog (auditor args env) args.stage log with
      | .ok r => (startRecord args :: r.trace, .report r)
      | .error cause =>
        (startRecord args :: ((auditor args env).auditLog args.stage log).trace, .aborted cause)
  else ([], .failed (.noLog args.log))

/-! ## Runs -/

/-- The exit status of a run that is aborted. -/
def abortedStatus : Nat := 101

/-- A run with arguments in order, in the environment that was loaded. What the system itself says of a
run that is aborted is left out of its errors.
mirrors src/main.rs:65-80,106-115 -/
def runArguments (args : Arguments) (env : Environment) (files : Storage) : Exit :=
  let (trace, outcome) := audit args env files
  let log := Text.unlines ((trace.filter (threshold args env).shows).map Record.line)
  match outcome with
  | .report r => ⟨r.exitStatus, Text.unlines (r.diagnostics ++ [closing r]), log⟩
  | .failed f => ⟨1, [], log ++ Text.unlines ["Error: ".toList ++ f.message]⟩
  | .aborted _ => ⟨abortedStatus, [], log⟩

/-- The parts of a run that others supply. -/
structure Readers where
  /-- What the arguments ask for. -/
  parse : List Text → Except Arguments.Stop Arguments
  /-- The environment after the environment file, if there is one. -/
  load : Environment → Storage → Except Lapse Environment

/-- A run with these readers. The environment file is loaded once the arguments are in order.
mirrors src/main.rs:61-80 -/
def runWith (rd : Readers) (args : List Text) (env : Environment) (files : Storage) : Exit :=
  match rd.parse args with
  | .ok a =>
    match rd.load env files with
    | .ok env => runArguments a env files
    | .error _ => ⟨abortedStatus, [], []⟩
  | .error .help => ⟨0, helpText, []⟩
  | .error .version => ⟨0, versionText, []⟩
  | .error .usage => ⟨2, [], Text.unlines [usageLine]⟩

/-- The readers of this program. -/
def readers : Readers := ⟨Arguments.parse, EnvFile.load⟩

/-- A run. -/
def run (args : List Text) (env : Environment) (files : Storage) : Exit :=
  runWith readers args env files

end Command
end PageAudit
