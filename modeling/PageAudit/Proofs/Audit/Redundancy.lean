import PageAudit.Proofs.Audit.Reach

/-!
# Checks that decide nothing

Two checks of the last stage pass whenever the others do. Two processes that have their stacks on
the last page overlap there, so the overlap of address spaces is never all that is missing. The free
frame that the check of progress finds is also the first of all free frames, so the memory was not
exhausted either. What passes the last stage is therefore settled without these two
(`passed_four_iff`); they decide only which violation is reported.

* `Overlap.of_stacks`, `overlap_passes_of_stacks`: stacks make an overlap;
* `firstFree_widen`, `exhaustion_of_progress`: the frame that both checks of frames find;
* `overlap_progress_redundant`: what that makes of the last stage.
-/
namespace PageAudit

/-! ## Checks that pass -/

/-- Whether an inspection finds nothing. -/
def Inspection.Passes (i : Inspection) : Prop := i.violation = none

namespace Inspection

theorem firstViolation_eq_none_iff {is : List Inspection} :
    firstViolation is = none ↔ ∀ i ∈ is, i.Passes :=
  List.findSome?_eq_none_iff

theorem stackPlacement_passes_iff {s : AddressSpace} {pid : UInt8} :
    (stackPlacement s pid).Passes ↔ s.lastEntry.owner = .process pid := by
  unfold Passes stackPlacement AddressSpace.stackPlacement
  dsimp only
  split
  · next own => exact ⟨fun _ => own, fun _ => rfl⟩
  · next other => exact ⟨nofun, fun own => absurd own other⟩

theorem overlap_passes_iff {ss : List AddressSpace} :
    (overlap ss).Passes ↔ ∃ a ∈ ss, ∃ b ∈ ss, Overlap a.entry? b.entry? := by
  have none := (AddressSpace.overlap_finds ss).eq_none_iff
  constructor
  · intro passes
    by_contra disjoint
    exact none.mp passes _ ⟨disjoint, rfl⟩
  · intro overlaps
    apply none.mpr
    rintro v ⟨disjoint, -⟩
    exact disjoint overlaps

end Inspection

/-! ## Stacks and overlap -/

theorem Owner.ne_unmapped_of_eq_process {o : Owner} {p : UInt8} (h : o = .process p) :
    o ≠ .unmapped := by
  rw [h]
  exact Owner.noConfusion

/-- The last page is mapped by both processes, each for itself. -/
theorem Overlap.of_stacks {s t : AddressSpace} {p q : UInt8} (hs : s.lastEntry.owner = .process p)
    (ht : t.lastEntry.owner = .process q) (hpq : p ≠ q) : Overlap s.entry? t.entry? := by
  refine ⟨stackPage, _, _, s.entry?_stackPage, t.entry?_stackPage,
    Owner.ne_unmapped_of_eq_process hs, Owner.ne_unmapped_of_eq_process ht, ?_⟩
  rw [hs, ht]
  exact fun same => hpq (Owner.process.inj same)

theorem Inspection.overlap_passes_of_stacks {ss : List AddressSpace} {s t : AddressSpace}
    {p q : UInt8} (hs : s ∈ ss) (ht : t ∈ ss) (hpq : p ≠ q) (stackS : (stackPlacement s p).Passes)
    (stackT : (stackPlacement t q).Passes) : (overlap ss).Passes := by
  rw [stackPlacement_passes_iff] at stackS stackT
  exact overlap_passes_iff.mpr ⟨s, hs, t, ht, .of_stacks stackS stackT hpq⟩

/-! ## Progress and exhaustion -/

namespace FrameMap

variable {m : FrameMap}

/-- The first free frame of a range is also that of any longer range with the same beginning. -/
theorem firstFree_widen {start stop stop' i : Nat} (longer : stop ≤ stop')
    (h : m.firstFree start stop = some i) : m.firstFree start stop' = some i := by
  obtain ⟨⟨from_start, inside, free⟩, first⟩ := firstFree_eq_some_iff.mp h
  exact firstFree_eq_some_iff.mpr ⟨⟨from_start, by omega, free⟩, first⟩

theorem exhaustion_of_progress {v : Violation} (h : m.allocationProgress = some v) :
    ∃ i, v = .atFrame .allocationProgress i .free (.progress i) ∧
      m.exhaustion = some (.atFrame .exhaustion i .free (.exhaustion i)) := by
  obtain ⟨i, found, rfl⟩ := Option.map_eq_some_iff.mp h
  have all : m.firstFree 0 frameCount = some i := firstFree_widen (by decide) found
  exact ⟨i, rfl, by rw [exhaustion, freeFrame, all]; rfl⟩

end FrameMap

theorem Inspection.allocationProgress_passes_of_exhaustion {m : FrameMap}
    (h : (exhaustion m).Passes) : (allocationProgress m).Passes := by
  unfold Passes at *
  cases found : (allocationProgress m).violation with
  | none => rfl
  | some v =>
    obtain ⟨i, -, free⟩ := FrameMap.exhaustion_of_progress found
    cases h.symm.trans free

/-! ## The last stage -/

theorem Stage.forall_mem_schedule_four {image : Image} {P : Inspection → Prop} :
    (∀ i ∈ Stage.four.schedule image, P i) ↔
      (∀ s ∈ image.spaces, P (.kernelIsolation s)) ∧
      (∀ s ∈ image.spaces, P (.processIsolation s s.pid)) ∧
      P (.allocationProgress image.frames) ∧ P (.exhaustion image.frames) ∧
      P (.overlap image.spaces) ∧ ∀ s ∈ image.spaces, P (.stackPlacement s s.pid) := by
  simp [schedule, reaches, number, ownChecks, or_imp, forall_and]

namespace Auditor

section
variable {a : Auditor} {d : Dump} {image : Image} (h : d.decode = .ok image)
include h

theorem passed_iff_of_decode {g : Stage} :
    (a.auditDump g d).verdict.passed = true ↔ ∀ i ∈ g.schedule image, i.Passes := by
  rw [← Inspection.firstViolation_eq_none_iff, Verdict.passed_eq_true_iff, verdict_of_decode h]
  simp [Verdict.fault?, Verdict.violation?]

theorem stackPlacement_passes_iff_of_decode {s : AddressSpace} (hs : s ∈ image.spaces) :
    (Inspection.stackPlacement s s.pid).Passes ↔
      (Entry.at? (d.virtualOf s.pid) stackPage).map Entry.owner = some (.process s.pid) := by
  rw [Inspection.stackPlacement_passes_iff, ← (Dump.entry?_of_decode h hs).2, s.entry?_stackPage,
    Option.map_some, Option.some.injEq]

theorem passed_four_iff :
    (a.auditDump .four d).verdict.passed = true ↔
      (∀ s ∈ image.spaces, (Inspection.kernelIsolation s).Passes ∧
        (Inspection.processIsolation s s.pid).Passes ∧
        (Inspection.stackPlacement s s.pid).Passes) ∧
      (Inspection.exhaustion image.frames).Passes := by
  rw [passed_iff_of_decode h, Stage.forall_mem_schedule_four]
  constructor
  · intro passes
    obtain ⟨kernel, process, -, exhausted, -, placed⟩ := passes
    exact ⟨fun s hs => ⟨kernel s hs, process s hs, placed s hs⟩, exhausted⟩
  · intro passes
    obtain ⟨spaces, exhausted⟩ := passes
    obtain ⟨s, hs, hp, -⟩ := Dump.exists_space_of_pid h (p := 1) (by decide)
    obtain ⟨t, ht, hq, -⟩ := Dump.exists_space_of_pid h (p := 2) (by decide)
    have distinct : s.pid ≠ t.pid := by
      rw [hp, hq]
      decide
    exact ⟨fun s hs => (spaces s hs).1, fun s hs => (spaces s hs).2.1,
      Inspection.allocationProgress_passes_of_exhaustion exhausted, exhausted,
      Inspection.overlap_passes_of_stacks hs ht distinct (spaces s hs).2.2 (spaces t ht).2.2,
      fun s hs => (spaces s hs).2.2⟩

end

/-- A dump of the right lengths in which two processes have their stacks on the last page passes the
check of overlap. One without a free frame passes the check of progress, and where this check fails,
the check of exhaustion fails at the same frame. So a dump passes the last stage if it passes the two
checks of isolation and that of the stack for every process, and that of exhaustion. -/
theorem overlap_progress_redundant (a : Auditor) {d : Dump} (sized : d.WellSized) :
    ∃ image, d.decode = .ok image ∧ image.spaces.map (·.pid) = [1, 2, 3, 4] ∧
      (∀ s ∈ image.spaces, ∀ t ∈ image.spaces, s.pid ≠ t.pid →
        (Inspection.stackPlacement s s.pid).Passes → (Inspection.stackPlacement t t.pid).Passes →
        (Inspection.overlap image.spaces).Passes) ∧
      ((Inspection.exhaustion image.frames).Passes →
        (Inspection.allocationProgress image.frames).Passes) ∧
      (∀ v, (Inspection.allocationProgress image.frames).violation = some v →
        ∃ i, v = .atFrame .allocationProgress i .free (.progress i) ∧
          (Inspection.exhaustion image.frames).violation =
            some (.atFrame .exhaustion i .free (.exhaustion i))) ∧
      ((a.auditDump .four d).verdict.passed = true ↔
        (∀ s ∈ image.spaces, (Inspection.kernelIsolation s).Passes ∧
          (Inspection.processIsolation s s.pid).Passes ∧
          (Inspection.stackPlacement s s.pid).Passes) ∧
        (Inspection.exhaustion image.frames).Passes) := by
  obtain ⟨image, h⟩ := Dump.exists_decode_iff.mpr sized
  refine ⟨image, h, Dump.pids_of_decode h, ?_, ?_, ?_, passed_four_iff h⟩
  · intro s hs t ht distinct placedS placedT
    exact Inspection.overlap_passes_of_stacks hs ht distinct placedS placedT
  · exact Inspection.allocationProgress_passes_of_exhaustion
  · intro v failed
    exact FrameMap.exhaustion_of_progress failed

/-- With the stacks of two processes in place and frame 300 free, overlap is found. Both checks of
frames fail at frame 300, and so does the last stage. -/
theorem overlap_progress_redundant_at_frame :
    let d : Dump := ⟨List.replicate 300 'R' ++ '.' :: List.replicate 211 'R',
      #v[stackOnly '1', stackOnly '2', stackOnly 'K', stackOnly 'K']⟩
    d.WellSized ∧ (default.auditDump .four d).verdict.passed = false ∧
    ∃ image, d.decode = .ok image ∧ (Inspection.overlap image.spaces).Passes ∧
      (Inspection.allocationProgress image.frames).violation =
        some (.atFrame .allocationProgress 300 .free (.progress 300)) ∧
      (Inspection.exhaustion image.frames).violation =
        some (.atFrame .exhaustion 300 .free (.exhaustion 300)) := by
  intro d
  have sized : d.WellSized := by
    rw [Dump.wellSized_iff]
    decide +kernel
  obtain ⟨image, h, -, overlap, -, progress, passed⟩ :=
    overlap_progress_redundant default sized
  have frame : (FrameMap.decode d.physical).toOption.bind (·.firstFree 0 progressEnd) = some 300 := by
    decide +kernel
  have failed : (Inspection.allocationProgress image.frames).violation =
      some (.atFrame .allocationProgress 300 .free (.progress 300)) := by
    rw [(Dump.decode_eq_ok_iff.mp h).1] at frame
    exact congrArg (Option.map _) frame
  obtain ⟨i, same, exhausted⟩ := progress _ failed
  obtain ⟨-, -, index, -⟩ := Violation.eq_atFrame_iff.mp same
  obtain rfl : 300 = i := Option.some.inj index
  obtain ⟨s, hs, hp, -⟩ := Dump.exists_space_of_pid h (p := 1) (by decide)
  obtain ⟨t, ht, hq, -⟩ := Dump.exists_space_of_pid h (p := 2) (by decide)
  have placedS : (Inspection.stackPlacement s s.pid).Passes := by
    rw [stackPlacement_passes_iff_of_decode h hs, hp]
    decide +kernel
  have placedT : (Inspection.stackPlacement t t.pid).Passes := by
    rw [stackPlacement_passes_iff_of_decode h ht, hq]
    decide +kernel
  have distinct : s.pid ≠ t.pid := by
    rw [hp, hq]
    decide
  refine ⟨sized, ?_, image, h, overlap s hs t ht distinct placedS placedT, failed, exhausted⟩
  rw [← Bool.not_eq_true, passed]
  rintro ⟨-, full⟩
  cases full.symm.trans exhausted

end Auditor

end PageAudit
