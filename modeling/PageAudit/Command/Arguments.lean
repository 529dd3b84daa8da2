import PageAudit.Audit.Stage
import PageAudit.Settings.Environment

/-!
# Arguments of the command line

The stage must be named; the log file, the width of rows and a word to be quiet may be. An
option is written short or long, and its value in the same argument, with or without an equals
sign, or in the next one, unless that looks like an option itself. Nothing may be given twice,
and there are no other arguments. These are the rules of the parser that is derived from
src/main.rs:21-59; a run takes it as a parameter (`Command.Readers`).
-/
namespace PageAudit

/-- What a run is asked for.
mirrors src/main.rs:27-59 -/
structure Arguments where
  stage : Stage
  log : Text
  width : Option Nat
  quiet : Bool
  deriving DecidableEq, Repr

namespace Arguments

/-- Why there is nothing to run. -/
inductive Stop
  /-- The arguments are not in order. -/
  | usage
  /-- Help is asked for. -/
  | help
  /-- The version is asked for. -/
  | version
  deriving DecidableEq, Repr

/-- The options that have a value. -/
inductive Valued | stage | log | width
  deriving DecidableEq, Repr

/-- What the arguments so far have given. -/
structure Given where
  stage : Option Stage
  log : Option Text
  width : Option Nat
  quiet : Bool
  deriving DecidableEq, Repr

/-- Nothing yet. -/
def Given.nothing : Given := ⟨none, none, none, false⟩

/-- Reads the number of a stage.
mirrors src/main.rs:28-34 -/
def readStage (t : Text) : Option Stage := do
  Stage.ofNumber? (← (← Text.readInteger 64 t).toNat?)

/-- Takes in the value of an option, unless it has one or the value cannot be read. -/
def Given.set? (g : Given) : Valued → Text → Option Given
  | .stage, value =>
    if g.stage.isSome then none else (readStage value).map fun s => { g with stage := some s }
  | .log, value =>
    if g.log.isSome ∨ value = [] then none else some { g with log := some value }
  | .width, value =>
    if g.width.isSome then none
    else (Environment.readSize value).map fun w => { g with width := some w }

/-- Takes in the value of an option, or stops. -/
def Given.set (g : Given) (option : Valued) (value : Text) : Except Stop Given :=
  (g.set? option value).elim (.error .usage) .ok

/-- Takes in the word to be quiet. -/
def Given.setQuiet (g : Given) : Except Stop Given :=
  if g.quiet then .error .usage else .ok { g with quiet := true }

/-- Takes in an option with the text after it in the same argument; if that is empty, the
option waits for its value. -/
def Given.begin (g : Given) (option : Valued) : Text → Except Stop (Given × Option Valued)
  | [] => .ok (g, some option)
  | '=' :: value => (g.set option value).map (·, none)
  | value => (g.set option value).map (·, none)

/-- Takes in the letters of an argument of short options. -/
def Given.short (g : Given) : Text → Except Stop (Given × Option Valued)
  | [] => .ok (g, none)
  | 's' :: r => g.begin .stage r
  | 'l' :: r => g.begin .log r
  | 'w' :: r => g.begin .width r
  | 'q' :: r => do (← g.setQuiet).short r
  | 'h' :: _ => .error .help
  | 'V' :: _ => .error .version
  | _ => .error .usage

/-- Takes in a long option, with the equals sign and value that may follow its name. -/
def Given.long (g : Given) (t : Text) : Except Stop (Given × Option Valued) :=
  let name := t.takeWhile (· ≠ '=')
  let rest := t.dropWhile (· ≠ '=')
  if name = "stage".toList then g.begin .stage rest
  else if name = "log".toList then g.begin .log rest
  else if name = "width".toList then g.begin .width rest
  else if rest ≠ [] then .error .usage
  else if name = "quiet".toList then g.setQuiet.map (·, none)
  else if name = "help".toList then .error .help
  else if name = "version".toList then .error .version
  else .error .usage

/-- Whether an argument can be the value of the option before it. -/
def isValue (arg : Text) : Bool := arg.head? ≠ some '-' || arg = ['-']

/-- Takes in the arguments, where an option may wait for its value. Two dashes end the options,
and nothing may follow them. -/
def Given.read (g : Given) : Option Valued → List Text → Except Stop Given
  | none, [] => .ok g
  | some _, [] => .error .usage
  | some option, arg :: rest =>
    if isValue arg then do (← g.set option arg).read none rest else .error .usage
  | none, arg :: rest =>
    match arg with
    | ['-', '-'] => if rest = [] then .ok g else .error .usage
    | '-' :: '-' :: t => do
      let (g, waiting) ← g.long t
      g.read waiting rest
    | '-' :: c :: t => do
      let (g, waiting) ← g.short (c :: t)
      g.read waiting rest
    | _ => .error .usage

/-- The log file that is read unless another is named.
mirrors src/main.rs:39 -/
def defaultLog : Text := "log.txt".toList

/-- What the arguments ask for.
mirrors src/main.rs:21-59,62 -/
def parse (args : List Text) : Except Stop Arguments := do
  let g ← Given.nothing.read none args
  match g.stage with
  | none => throw .usage
  | some stage => return ⟨stage, g.log.getD defaultLog, g.width, g.quiet⟩

end Arguments
end PageAudit
