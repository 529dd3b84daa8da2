import PageAudit.Memory.Layout
import PageAudit.Text.Quoted

/-!
# Faults

A fault is a reason why a log cannot be audited at all. It ends a run before any check, other
than a violated rule, which is a result.
-/
namespace PageAudit

/-- Why the system did not deliver the text of a file.
mirrors src/error.rs:22,27-33 -/
inductive ReadFailure
  | notFound
  | notDirectory
  | isDirectory
  | nameTooLong
  | nulInName
  | notText
  /-- Any other failure, with the system's own name and wording. -/
  | reported (kind message : Text)
  deriving DecidableEq, Repr

/-- The system's wording of a failure. -/
def ReadFailure.message : ReadFailure → Text
  | notFound => "No such file or directory (os error 2)".toList
  | notDirectory => "Not a directory (os error 20)".toList
  | isDirectory => "Is a directory (os error 21)".toList
  | nameTooLong => "File name too long (os error 36)".toList
  | nulInName => "file name contained an unexpected NUL byte".toList
  | notText => "stream did not contain valid UTF-8".toList
  | reported _ message => message

/-- Why a log cannot be audited. Lines count from 0.
mirrors src/error.rs:7-24 -/
inductive Fault
  /-- The log ended before this line; it has `found` lines. -/
  | missingLine (line found : Nat)
  /-- A header line does not say what it has to. -/
  | badHeader (line : Nat) (expected found : Text)
  /-- The physical dump has a wrong number of tags. -/
  | frameTags (found : Nat)
  /-- The dump of a process has a wrong number of characters. -/
  | pageTags (pid : UInt8) (found : Nat)
  /-- The log file could not be read. -/
  | unreadable (path : Text) (cause : ReadFailure)
  /-- There is no stage of this number. -/
  | unknownStage (number : UInt8)
  deriving DecidableEq, Repr

/-- The fault in words.
mirrors src/error.rs:36-72 -/
def Fault.message : Fault → Text
  | missingLine line found =>
    "memory dump is truncated: expected line ".toList ++ Text.decimal line ++
      " but the log has only ".toList ++ Text.decimal found ++
      " line(s); the program probably crashed or never finished".toList
  | badHeader line expected found =>
    "unexpected output on line ".toList ++ Text.decimal line ++ ": expected ".toList ++
      Text.quoted '"' expected ++ ", found ".toList ++ Text.quoted '"' found ++
      "; remove any extra debug printing".toList
  | frameTags found =>
    "physical memory dump has ".toList ++ Text.decimal found ++ " page(s), expected ".toList ++
      Text.decimal frameCount
  | pageTags pid found =>
    "virtual memory dump for process ".toList ++ Text.decimal pid.toNat ++ " has ".toList ++
      Text.decimal found ++ " character(s), expected ".toList ++ Text.decimal (2 * pageCount) ++
      " (".toList ++ Text.decimal pageCount ++ " pairs)".toList
  | unreadable path cause => "failed to read ".toList ++ path ++ ": ".toList ++ cause.message
  | unknownStage number =>
    "invalid stage ".toList ++ Text.decimal number.toNat ++ ", expected 1, 2, 3 or 4".toList

end PageAudit
