import PageAudit.Proofs.Audit.FirstBreach

/-!
# A stage keeps the verdicts of the stages before it

The checks of a stage begin with those of every earlier stage, so a fault stays the same fault
and a violation the same violation (`Verdict.KeptBy`), and what passes late passes early. Only
the warnings depend on the stage by itself, through the frames it expects for page tables.

* `firstViolation_of_longer`: a longer series finds what its beginning finds;
* `keptBy_auditDump`, `keptBy_auditLog`: verdicts of a later stage;
* `Image.mem_warned_iff`: the processes that are warned of;
* `stages_cumulative`: all of this in one statement.
-/
namespace PageAudit

/-- A verdict of a later stage keeps this one: it has the same fault, it has the same violation
if there is one, and it passes only if this one does. -/
structure Verdict.KeptBy (v w : Verdict) : Prop where
  fault : w.fault? = v.fault?
  violation : ∀ x, v.violation? = some x → w.violation? = some x
  passed : w.passed = true → v.passed = true

/-- The processes that a verdict warns of. -/
def Verdict.warned (v : Verdict) : List UInt8 := v.warnings.map (·.pid)

/-! ## Faults and violations -/

theorem Verdict.KeptBy.refl (v : Verdict) : v.KeptBy v := ⟨rfl, fun _ h => h, fun h => h⟩

/-- A series that goes on does not take back what it found. -/
theorem Inspection.firstViolation_of_longer {is js : List Inspection} (h : is <+: js)
    {v : Violation} (hv : firstViolation is = some v) : firstViolation js = some v := by
  obtain ⟨rest, rfl⟩ := h
  unfold firstViolation at *
  rw [List.findSome?_append, hv, Option.some_or]

theorem Verdict.KeptBy.of_longer {is js : List Inspection} (h : is <+: js)
    (ws us : List CountWarning) :
    (graded ws (Inspection.firstViolation is)).KeptBy
      (graded us (Inspection.firstViolation js)) := by
  have kept : ∀ v, Inspection.firstViolation is = some v → Inspection.firstViolation js = some v :=
    fun v hv => Inspection.firstViolation_of_longer h hv
  refine ⟨rfl, kept, ?_⟩
  intro hpassed
  have hjs := (Verdict.passed_eq_true_iff.mp hpassed).2
  refine Verdict.passed_eq_true_iff.mpr ⟨rfl, ?_⟩
  cases his : Inspection.firstViolation is with
  | none => rfl
  | some v =>
    have hv := kept v his
    rw [Verdict.violation?, hv] at hjs
    cases hjs

namespace Auditor

variable {s t : Stage}

theorem keptBy_auditDump (a : Auditor) (h : s.number ≤ t.number) (d : Dump) :
    (a.auditDump s d).verdict.KeptBy (a.auditDump t d).verdict := by
  cases hd : d.decode with
  | error f =>
    rw [verdict_of_fault hd, verdict_of_fault hd]
    exact .refl _
  | ok image =>
    have reach : t.reaches s = true := by simpa [Stage.reaches] using h
    rw [verdict_of_decode hd, verdict_of_decode hd]
    exact .of_longer (Stage.schedule_prefix reach image) _ _

theorem keptBy_auditLog (a : Auditor) (h : s.number ≤ t.number) (log : Text) :
    (a.auditLog s log).verdict.KeptBy (a.auditLog t log).verdict := by
  unfold auditLog
  cases Dump.parse log with
  | error f => exact .refl _
  | ok d => exact a.keptBy_auditDump h d

end Auditor

/-! ## Warnings -/

theorem countWarning?_eq_some_iff {census : Census} {mapped tables : Nat} {p : UInt8}
    {w : CountWarning} :
    countWarning? census mapped p tables = some w ↔
      census.count (.process p) ≠ mapped + tables ∧
        w = ⟨p, census.count (.process p), mapped, tables⟩ := by
  unfold countWarning?
  by_cases h : census.count (.process p) = mapped + tables
  · simp [h]
  · simp [h, eq_comm]

namespace Image

variable {image : Image} {s t : Stage} {p : UInt8}

/-- A process is warned of if its frames are not its user pages and the page tables of the
stage. -/
theorem mem_warned_iff :
    p ∈ (image.warnings s).map (·.pid) ↔ ∃ a ∈ image.spaces, a.pid = p ∧
      image.frames.census.count (.process p) ≠ a.mappedCount p + s.tableFrames := by
  simp only [warnings, List.mem_map, List.mem_filterMap, countWarning?_eq_some_iff]
  constructor
  · intro h
    obtain ⟨w, ⟨a, ha, hne, rfl⟩, rfl⟩ := h
    exact ⟨a, ha, rfl, hne⟩
  · intro h
    obtain ⟨a, ha, rfl, hne⟩ := h
    exact ⟨_, ⟨a, ha, hne, rfl⟩, rfl⟩

theorem warnings_eq_of_tableFrames (h : s.tableFrames = t.tableFrames) :
    image.warnings s = image.warnings t := by
  unfold warnings
  rw [h]

/-- No count of frames fits two different numbers of page tables. -/
theorem warned_or_of_tableFrames (h : s.tableFrames ≠ t.tableFrames)
    (hp : p ∈ image.spaces.map (·.pid)) :
    p ∈ (image.warnings s).map (·.pid) ∨ p ∈ (image.warnings t).map (·.pid) := by
  obtain ⟨a, ha, rfl⟩ := List.mem_map.mp hp
  by_cases hs : image.frames.census.count (.process a.pid) = a.mappedCount a.pid + s.tableFrames
  · have ht : image.frames.census.count (.process a.pid) ≠
        a.mappedCount a.pid + t.tableFrames := by omega
    exact .inr (mem_warned_iff.mpr ⟨a, ha, rfl, ht⟩)
  · exact .inl (mem_warned_iff.mpr ⟨a, ha, rfl, hs⟩)

end Image

/-! ## All stages -/

namespace Auditor

/-- From a stage to a later one, the verdict on a log or on a dump is kept. Where a dump has the
right lengths, the second and the third stage warn of the same processes, and of two stages that
expect different numbers of page tables one warns of every process. -/
theorem stages_cumulative (a : Auditor) {s t : Stage} (h : s.number ≤ t.number) :
    (∀ log, (a.auditLog s log).verdict.KeptBy (a.auditLog t log).verdict) ∧
    (∀ d, (a.auditDump s d).verdict.KeptBy (a.auditDump t d).verdict) ∧
    ∀ d : Dump, d.WellSized →
      (a.auditDump .two d).verdict.warned = (a.auditDump .three d).verdict.warned ∧
      (s.tableFrames ≠ t.tableFrames → ∀ p ∈ processIds,
        p ∈ (a.auditDump s d).verdict.warned ∨ p ∈ (a.auditDump t d).verdict.warned) := by
  refine ⟨a.keptBy_auditLog h, a.keptBy_auditDump h, ?_⟩
  intro d hd
  obtain ⟨image, himage⟩ := Dump.exists_decode_iff.mpr hd
  simp only [verdict_of_decode himage, Verdict.warned, Verdict.warnings]
  refine ⟨?_, ?_⟩
  · rw [Image.warnings_eq_of_tableFrames (s := .two) (t := .three) rfl]
  · intro hne p hp
    rw [← Dump.pids_of_decode himage] at hp
    exact Image.warned_or_of_tableFrames hne hp

/-- A log without lines is as faulty at the last stage as at the first, and an empty memory has
the first or the last stage warn of process 3. -/
theorem stages_cumulative_on_empty_memory :
    let d : Dump := ⟨List.replicate 512 '.', Vector.replicate 4 (List.replicate 1536 '.')⟩
    Stage.one.number ≤ Stage.four.number ∧
    (default.auditLog .four []).verdict.fault? = (default.auditLog .one []).verdict.fault? ∧
    d.WellSized ∧ Stage.one.tableFrames ≠ Stage.four.tableFrames ∧
    (3 ∈ (default.auditDump .one d).verdict.warned ∨
      3 ∈ (default.auditDump .four d).verdict.warned) := by
  intro d
  have order : Stage.one.number ≤ Stage.four.number := by decide
  have tables : Stage.one.tableFrames ≠ Stage.four.tableFrames := by decide
  have sized : d.WellSized := Dump.wellSized_replicate '.' '.'
  have kept := stages_cumulative default order
  refine ⟨order, (kept.1 []).fault, sized, tables, ?_⟩
  exact (kept.2.2 d sized).2 tables 3 (by decide)

end Auditor

end PageAudit
