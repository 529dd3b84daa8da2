import PageAudit.Memory.Census

/-!
# Page counts of a process

A process holds the frames of its user pages and those of its page tables. Another count is
worth a warning and no more, for a later stage changes the number of page tables.
-/
namespace PageAudit

/-- The counts of a process that do not fit together.
mirrors src/checks.rs:100-110 -/
structure CountWarning where
  pid : UInt8
  /-- The frames that the process holds. -/
  physical : Nat
  /-- The user pages that it maps. -/
  mapped : Nat
  /-- The frames expected beyond the user pages. -/
  tableFrames : Nat
  deriving DecidableEq, Repr

/-- The warning in words.
mirrors src/checks.rs:112-121 -/
def CountWarning.describe (w : CountWarning) : Text :=
  "process ".toList ++ Text.decimal w.pid.toNat ++ " owns ".toList ++ Text.decimal w.physical ++
    " physical page(s) but maps ".toList ++ Text.decimal w.mapped ++
    " user page(s); expected ".toList ++ Text.decimal w.tableFrames ++
    " more physical than virtual (ignore this if you implemented a later stage)".toList

/-- Whether the counts of a process fit together; if not, the warning about them.
mirrors src/checks.rs:263-276 -/
def countWarning? (census : Census) (mapped : Nat) (pid : UInt8) (tableFrames : Nat) :
    Option CountWarning :=
  let physical := census.count (.process pid)
  if physical = mapped + tableFrames then none else some ⟨pid, physical, mapped, tableFrames⟩

end PageAudit
