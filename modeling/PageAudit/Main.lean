import PageAudit.Command.Run

/-!
# The program

Reads the arguments, the environment and the files that a run can need, and prints what the run ends
with.
-/
namespace PageAudit.Program

/-- The number of a system error, which some calls give with a minus sign. -/
def errorNumber (code : UInt32) : Nat := (min code (0 - code)).toNat

/-- The failure that a system error of a number and a wording stands for. -/
def failureOfNumber (code : UInt32) (details : String) : ReadFailure :=
  match errorNumber code with
  | 2 => .notFound
  | 20 => .notDirectory
  | 21 => .isDirectory
  | 36 => .nameTooLong
  | n => .reported [] (details.toList ++ " (os error ".toList ++ Text.decimal n ++ ")".toList)

/-- The failure that a system error stands for. -/
def failureOf : IO.Error → ReadFailure
  | .noFileOrDirectory .. => .notFound
  | .inappropriateType _ code details | .invalidArgument _ code details
  | .permissionDenied _ code details | .resourceExhausted _ code details
  | .alreadyExists _ code details | .noSuchThing _ code details
  | .interrupted _ code details | .otherError code details | .resourceBusy code details
  | .resourceVanished code details | .unsupportedOperation code details
  | .hardwareFault code details | .unsatisfiedConstraints code details
  | .illegalOperation code details | .protocolError code details
  | .timeExpired code details => failureOfNumber code details
  | e => .reported [] e.toString.toList

/-- Whether a path leads somewhere, by what reading it came to. -/
def isPresent : Except ReadFailure ByteArray → Bool
  | .ok _ | .error .isDirectory | .error (.reported ..) => true
  | .error _ => false

/-- The bytes of a file. -/
def readFile (path : Text) : IO (Except ReadFailure ByteArray) := do
  try
    return .ok (← IO.FS.readBinFile (String.ofList path))
  catch e =>
    return .error (failureOf e)

/-- The environment variables of the process. -/
def readEnvironment : IO Environment := do
  return (← readFile "/proc/self/environ".toList).toOption.elim [] Environment.ofBlock

/-- The directories above the one that the program runs in. -/
def directoriesAbove : IO Nat := do
  let path ← IO.currentDir
  return ((path.toString.toList.splitOn '/').filter (· ≠ [])).length

/-- The paths of the environment files from this one on, one for each directory. -/
def envPaths (path : Text) : Nat → List Text
  | 0 => [path]
  | n + 1 => path :: envPaths (parentPath path) n

/-- The log file and the environment files as a storage. -/
def readStorage (log : Text) : IO Storage := do
  let above ← directoriesAbove
  let table ← (log :: envPaths envFileName above).mapM fun path => return (path, ← readFile path)
  let look := fun path => (table.lookup path).getD (.error .notFound)
  return ⟨fun path => isPresent (look path), look, above⟩

end PageAudit.Program

open PageAudit in
/-- Runs the program.
mirrors src/main.rs:61-80 -/
def main (args : List String) : IO UInt32 := do
  let args := args.map String.toList
  let log := (Arguments.parse args).toOption.elim Arguments.defaultLog Arguments.log
  let exit := Command.run args (← Program.readEnvironment) (← Program.readStorage log)
  (← IO.getStderr).putStr (String.ofList exit.errors)
  (← IO.getStdout).putStr (String.ofList exit.output)
  return UInt32.ofNat exit.status
