import PageAudit.Dump.Fault

/-!
# Stages

The four goals that a kernel is audited against. Each stage asks for all that the one before
it asks for.
-/
namespace PageAudit

/-- A goal of the audit.
mirrors src/grader.rs:16-27 -/
inductive Stage
  /-- The kernel is isolated. -/
  | one
  /-- Every process has page tables of its own. -/
  | two
  /-- Virtual pages are allocated. -/
  | three
  /-- Address spaces overlap and use up the memory. -/
  | four
  deriving DecidableEq, Repr

namespace Stage

/-- The number of a stage.
mirrors src/grader.rs:39-41 -/
def number : Stage → UInt8
  | one => 1
  | two => 2
  | three => 3
  | four => 4

/-- The stage of a number.
mirrors src/grader.rs:44-56 -/
def ofNumber : UInt8 → Except Fault Stage
  | 1 => .ok one
  | 2 => .ok two
  | 3 => .ok three
  | 4 => .ok four
  | n => .error (.unknownStage n)

/-- The stage of a number that is in range.
mirrors src/main.rs:31,84 -/
def ofNumber? (n : Nat) : Option Stage :=
  if n < 256 then (ofNumber (UInt8.ofNat n)).toOption else none

/-- Stages are ordered by number.
mirrors src/grader.rs:17 -/
instance : Ord Stage := ⟨fun s t => compare s.number t.number⟩

/-- Whether a stage asks for all that another asks for.
mirrors src/grader.rs:222,227,230 -/
def reaches (s t : Stage) : Bool := t.number ≤ s.number

/-- The frames that a process holds beyond its user pages, for its page tables.
mirrors src/grader.rs:30-37 -/
def tableFrames : Stage → Nat
  | one => 0
  | two | three => 4
  | four => 5

/-- The stage as messages name it.
mirrors src/grader.rs:58-62 -/
def describe (s : Stage) : Text := "stage ".toList ++ Text.decimal s.number.toNat

theorem ofNumber_number (s : Stage) : ofNumber s.number = .ok s := by cases s <;> rfl

end Stage
end PageAudit
