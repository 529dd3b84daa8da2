import PageAudit.Text.Basic

/-!
# The log of a run

What a run reports about itself as it goes: records of five levels, and the threshold that
decides which of them are shown.
-/
namespace PageAudit

/-- How important a record is. -/
inductive Level | error | warn | info | debug | trace
  deriving DecidableEq, Repr

/-- The level as it is printed. -/
def Level.name : Level → Text
  | error => "ERROR".toList
  | warn => "WARN".toList
  | info => "INFO".toList
  | debug => "DEBUG".toList
  | trace => "TRACE".toList

/-- The levels, from the most important down. -/
def Level.all : List Level := [error, warn, info, debug, trace]

/-- The place of a level among all, from the most important down. -/
def Level.verbosity : Level → Nat
  | error => 1
  | warn => 2
  | info => 3
  | debug => 4
  | trace => 5

/-- One record of the log of a run. -/
structure Record where
  level : Level
  text : Text
  deriving DecidableEq, Repr

/-- The record as a line: the level set to the right in five columns, then the text.
mirrors src/console.rs:10 -/
def Record.line (r : Record) : Text := r.level.name.leftpad 5 ' ' ++ ' ' :: r.text

/-- Short names of levels are set to the right. -/
example : Record.line ⟨.warn, "two".toList⟩ = " WARN two".toList := by decide

/-- The least important level that is shown; `none` shows nothing. -/
structure Threshold where
  level? : Option Level
  deriving DecidableEq, Repr

namespace Threshold

/-- What a threshold that shows nothing is called. -/
def offName : Text := "OFF".toList

/-- The threshold as it is printed. -/
def name (t : Threshold) : Text := t.level?.elim offName Level.name

/-- The threshold that a name stands for, in capitals, small letters or a mixture.
mirrors src/config.rs:38,41-43 -/
def ofName? (t : Text) : Option Threshold :=
  let upper := t.map Char.toUpper
  ((none :: Level.all.map some).map Threshold.mk).find? (·.name = upper)

/-- Whether a record passes the threshold.
mirrors src/console.rs:13-15 -/
def shows (t : Threshold) (r : Record) : Bool :=
  t.level?.any fun l => r.level.verbosity ≤ l.verbosity

end Threshold
end PageAudit
