import PageAudit.Trace
import PageAudit.Audit.Stage
import PageAudit.Audit.Violation
import PageAudit.Audit.PageCount

/-!
# Reports

What an audit comes to: a fault, or warnings and possibly a violation. The report puts it in
words, for the reader of the result (`diagnostics`) and for the log of the run (`trace`).
-/
namespace PageAudit

/-- What an audit comes to.
mirrors src/grader.rs:66-74 -/
inductive Verdict
  /-- The log could not be audited. -/
  | faulty (fault : Fault)
  /-- It could; the checks passed if there is no violation. -/
  | graded (warnings : List CountWarning) (violation : Option Violation)
  deriving DecidableEq, Repr

namespace Verdict

/-- Whether all checks were carried out and passed. -/
def passed : Verdict → Bool
  | graded _ none => true
  | _ => false

/-- The warnings; a log that could not be audited has none. -/
def warnings : Verdict → List CountWarning
  | faulty _ => []
  | graded ws _ => ws

/-- The violation, if a check failed. -/
def violation? : Verdict → Option Violation
  | faulty _ => none
  | graded _ v => v

/-- The fault, if the log could not be audited. -/
def fault? : Verdict → Option Fault
  | faulty f => some f
  | graded _ _ => none

end Verdict

/-- The result of an audit.
mirrors src/grader.rs:64-74 -/
structure Report where
  stage : Stage
  verdict : Verdict
  /-- The log that was audited, in rows. -/
  rows : List Text
  /-- The log of the run. -/
  trace : List Record
  deriving DecidableEq, Repr

namespace Report

/-- The line about a warning.
mirrors src/grader.rs:173 -/
def warningLine (w : CountWarning) : Text := "warning: ".toList ++ w.describe

/-- The line above the rows of the log.
mirrors src/grader.rs:97 -/
def rowsHeader : Text := "memory dump:".toList

/-- The result in words: the warnings, then what failed and the log in rows, or that all
checks passed.
mirrors src/grader.rs:91,96-99,173-187 -/
def diagnostics (r : Report) : List Text :=
  match r.verdict with
  | .faulty f => ("error: ".toList ++ f.message) :: rowsHeader :: r.rows
  | .graded ws (some v) =>
    ws.map warningLine ++ ("FAIL: ".toList ++ v.describe) :: rowsHeader :: r.rows
  | .graded ws none =>
    ws.map warningLine ++ ["PASS: all ".toList ++ r.stage.describe ++ " checks passed".toList]

/-- The exit status of a run with this result.
mirrors src/grader.rs:101-103 -/
def exitStatus (r : Report) : Nat := if r.verdict.passed then 0 else 1

end Report
end PageAudit
