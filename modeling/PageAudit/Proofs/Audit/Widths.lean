import PageAudit.Proofs.Dump.Runs
import PageAudit.Proofs.Audit.Endings

/-!
# Two widths

The width of an auditor decides where the rows of a log end, and nothing else. Two auditors agree on
everything in their reports but the rows (`auditLog_of_width`), which are shown under the same lines.
A log has one block of rows for every line, and at every width the rows of a block are the line
again, once they have lost their labels (`joined_blocks`).

* `verdict_auditLog`: what is found in a log does not depend on the width;
* `auditLog_widths`: two reports on one log.
-/
namespace PageAudit

open Text

/-! ## Blocks of rows -/

/-- The rows of a log, in one block for every line. -/
def blocks (w : Width) (ls : List Text) : List (List Text) :=
  ls.mapIdx fun n l => lineRows w (.ofNumber n) l

theorem flatten_blocks (w : Width) (ls : List Text) : (blocks w ls).flatten = rows w ls := rfl

/-- What the block of line `n` says, without the labels that the rows of a dump have. -/
def joined (n : Nat) (b : List Text) : Text :=
  match LineKind.ofNumber n with
  | .text => b.flatten
  | .physical | .virtual => lineOfRun b

theorem joined_lineRows (w : Width) (n : Nat) (l : Text) :
    joined n (lineRows w (.ofNumber n) l) = l := by
  unfold joined
  cases LineKind.ofNumber n with
  | text => exact (textBlock_textRows w l).whole
  | physical => exact lineOfRun_dumpRows w 1 Nat.one_pos l
  | virtual => exact lineOfRun_dumpRows w 2 Nat.two_pos l

/-- Every block says what its line says. -/
theorem joined_blocks (w : Width) (ls : List Text) : (blocks w ls).mapIdx joined = ls := by
  rw [blocks, List.mapIdx_mapIdx]
  apply List.ext_getElem?
  intro n
  simp [joined_lineRows, Function.comp_def]

/-! ## Two auditors -/

namespace Auditor

variable (a b : Auditor) (g : Stage)

theorem auditDump_of_width (d : Dump) :
    b.auditDump g d = { a.auditDump g d with rows := d.rows b.width } := by
  unfold auditDump
  cases d.decode <;> rfl

theorem auditLog_of_width (log : Text) : b.auditLog g log =
    { a.auditLog g log with rows := rows b.width (shownLines (lines log)) } := by
  rw [← rows_auditLog (a := b) (g := g) (breaksInto_lines log)]
  unfold auditLog
  cases Dump.parse log with
  | error f => rfl
  | ok d =>
    dsimp only
    rw [rows_auditDump]
    exact auditDump_of_width a b g d

/-- The width of its rows does not change what an auditor finds. -/
theorem verdict_auditLog (log : Text) :
    (a.auditLog g log).verdict = (b.auditLog g log).verdict := by
  rw [auditLog_of_width a b]

/-- Two auditors come to the same verdict on a log, with the same exit status and the same records in
the log of the run. If the log passes, they say the same. If it fails, they say the same down to the
line that announces the rows. Below it each shows the same lines, in blocks of rows of its own width:
without the labels of data, the rows of a block join to the same characters. -/
theorem auditLog_widths (log : Text) :
    let r := a.auditLog g log
    let s := b.auditLog g log
    let ls := shownLines (lines log)
    (r.stage = s.stage ∧ r.verdict = s.verdict ∧ r.exitStatus = s.exitStatus ∧
      r.trace = s.trace) ∧
    ((r.verdict.passed = true ∧ r.diagnostics = s.diagnostics) ∨
      (r.verdict.passed = false ∧ ∃ above, "memory dump:".toList ∉ above ∧
        r.diagnostics = above ++ "memory dump:".toList :: (blocks a.width ls).flatten ∧
        s.diagnostics = above ++ "memory dump:".toList :: (blocks b.width ls).flatten)) ∧
    (blocks a.width ls).mapIdx joined = (blocks b.width ls).mapIdx joined := by
  intro r s ls
  have hr : r = { r with rows := rows a.width ls } := auditLog_of_width a a g log
  have hs : s = { r with rows := rows b.width ls } := auditLog_of_width a b g log
  refine ⟨?_, ?_, ?_⟩
  · rw [hs]
    exact ⟨rfl, rfl, rfl, rfl⟩
  · cases passed : r.verdict.passed with
    | true =>
      refine .inl ⟨rfl, ?_⟩
      rw [hs]
      exact (Report.diagnostics_of_passed passed _).symm
    | false =>
      obtain ⟨above, first, diagnostics⟩ := Report.exists_above passed
      refine .inr ⟨rfl, above, first, ?_, ?_⟩
      · rw [hr, flatten_blocks]
        exact diagnostics _
      · rw [hs, flatten_blocks]
        exact diagnostics _
  · rw [joined_blocks, joined_blocks]

end Auditor

end PageAudit
