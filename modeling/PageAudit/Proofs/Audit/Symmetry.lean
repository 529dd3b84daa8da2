import PageAudit.Proofs.Audit.PageCounts
import PageAudit.Proofs.Memory.Renaming

/-!
# Processes and unknown tags are all alike

An audit compares tags with each other, with the dot, with the tag of the console and with the
digit of the process at hand, and with nothing else. So a dump and the dump with its tags renamed
break the same rules, if not at the same places: the processes are visited in another order, and
the violation that is reported may be that of another process. It is one of the same check, and
the frames, which belong to no process, are reported as they were.

* `Breach.renamed`: what is wrong with a dump is wrong with the renamed dump;
* `Finds.check_eq`: searches that can find the same checks report the same check;
* `warnings_renamed`: the counts go with the processes;
* `auditDump_renamed`: what a renaming makes of the verdict on a dump.
-/
namespace PageAudit

/-! ## What is wrong with a renamed dump -/

section
variable (r : Renaming) {d : Dump}

theorem KernelBreach.renamed {i : Nat} {e : Entry} {rule : Rule} (he : e.owner.Legible .virtual)
    (h : KernelBreach i e rule) : KernelBreach i (r.entry e) rule := by
  cases h with
  | console hi hrule =>
    refine .console hi ?_
    simpa only [Renaming.entry, r.owner_eq_console_iff he] using hrule
  | kernelMemory hne hi hu => exact .kernelMemory hne hi hu
  | unmappedAccess hi hu ho => exact .unmappedAccess hi hu ((r.owner_eq_unmapped_iff he).mpr ho)

theorem ProcessBreach.renamed {p : UInt8} (hp : p ∈ processIds) {e : Entry} {rule : Rule}
    (he : e.owner.Legible .virtual) (h : ProcessBreach p e rule) :
    ProcessBreach (r.process p) (r.entry e) rule := by
  cases h with
  | foreignPage hm ho =>
    exact .foreignPage (mt (r.owner_eq_unmapped_iff he).mp hm) (mt (r.owner_eq_process_iff he hp).mp ho)
  | ownPage ho hu => exact .ownPage ((r.owner_eq_process_iff he hp).mpr ho) hu

theorem Overlap.renamed {raw other : Text} (h : Overlap (Entry.at? raw) (Entry.at? other)) :
    Overlap (Entry.at? (r.tags raw)) (Entry.at? (r.tags other)) := by
  obtain ⟨i, x, y, hx, hy, hxm, hym, hne⟩ := h
  have hxl := Renaming.legible_of_at? hx
  have hyl := Renaming.legible_of_at? hy
  exact ⟨i, _, _, r.at?_tags hx, r.at?_tags hy, mt (r.owner_eq_unmapped_iff hxl).mp hxm,
    mt (r.owner_eq_unmapped_iff hyl).mp hym, mt (r.owner_inj hxl hyl).mp hne⟩

theorem Dump.mem_virtualTexts_renamed {p : UInt8} {raw : Text} (h : (p, raw) ∈ d.virtualTexts) :
    (r.process p, r.tags raw) ∈ (r.dump d).virtualTexts := by
  obtain ⟨hp, rfl⟩ : p ∈ processIds ∧ raw = d.virtualOf p := Dump.mem_virtualTexts_iff.mp h
  exact Dump.mem_virtualTexts_iff.mpr ⟨(r.digitChar_process hp).1, (r.virtualOf_dump d hp).symm⟩

theorem Dump.overlaps_renamed (h : d.Overlaps) : (r.dump d).Overlaps := by
  obtain ⟨x, hx, y, hy, hov⟩ := h
  exact ⟨_, Dump.mem_virtualTexts_renamed r hx, _, Dump.mem_virtualTexts_renamed r hy,
    hov.renamed r⟩

theorem Dump.frame_free_renamed {i : Nat} (h : d.physical[i]? = some '.') :
    (r.dump d).physical[i]? = some '.' := by
  simp [Renaming.dump, h, r.vacant]

/-- What is wrong with a dump is wrong with the renamed dump by the same check, and if it is not
about a process it is the same. -/
theorem Breach.renamed {t : Stage} {v : Violation} (h : Breach d t v) :
    ∃ w, Breach (r.dump d) t w ∧ w.check = v.check ∧ (v.pid = none → w = v) := by
  cases h with
  | @kernel p raw i e rule hx he hr =>
    have hrule := hr.renamed r (Renaming.legible_of_at? he)
    exact ⟨_, .kernel (Dump.mem_virtualTexts_renamed r hx) (r.at?_tags he) hrule, rfl, nofun⟩
  | @process p raw i e rule hx hi he hr =>
    have hp : p ∈ processIds := Dump.mem_processIds_of_mem hx
    have hrule := hr.renamed r hp (Renaming.legible_of_at? he)
    exact ⟨_, .process (Dump.mem_virtualTexts_renamed r hx) hi (r.at?_tags he) hrule, rfl, nofun⟩
  | progress hi hfree => exact ⟨_, .progress hi (Dump.frame_free_renamed r hfree), rfl, fun _ => rfl⟩
  | exhaustion hi hfree =>
    exact ⟨_, .exhaustion hi (Dump.frame_free_renamed r hfree), rfl, fun _ => rfl⟩
  | overlap hno =>
    refine ⟨_, .overlap ?_, rfl, fun _ => rfl⟩
    intro hov
    have back := Dump.overlaps_renamed r.symm hov
    rw [r.symm_dump] at back
    exact hno back
  | @stack p raw e hx he ho =>
    have hp : p ∈ processIds := Dump.mem_processIds_of_mem hx
    have howner := mt (r.owner_eq_process_iff (Renaming.legible_of_at? he) hp).mp ho
    exact ⟨_, .stack (Dump.mem_virtualTexts_renamed r hx) (r.at?_tags he) howner, rfl, nofun⟩

theorem Failing.renamed {g : Stage} {v : Violation} (h : Failing g d v) :
    ∃ w, Failing g (r.dump d) w ∧ w.check = v.check ∧ (v.pid = none → w = v) := by
  obtain ⟨t, ht, hv⟩ := h
  obtain ⟨w, hw, same⟩ := hv.renamed r
  exact ⟨w, ⟨t, ht, hw⟩, same⟩

theorem Failing.of_renamed {g : Stage} {w : Violation} (h : Failing g (r.dump d) w) :
    ∃ v, Failing g d v ∧ v.check = w.check ∧ (w.pid = none → v = w) := by
  have back := h.renamed r.symm
  rwa [r.symm_dump] at back

/-- Whether a violation is about a process is a matter of its check. -/
theorem Failing.pid_eq_none_iff {g : Stage} {v : Violation} (h : Failing g d v) :
    v.pid = none ↔ v.check ∈ [.allocationProgress, .exhaustion, .overlap] := by
  obtain ⟨t, -, hv⟩ := h
  obtain ⟨r, about⟩ := hv.about
  cases about with
  | page _ _ check pid =>
    simp only [List.mem_cons, List.not_mem_nil, or_false] at check
    rcases check with check | check | check <;> simp [check, pid]
  | frame _ check pid =>
    simp only [List.mem_cons, List.not_mem_nil, or_false] at check
    rcases check with check | check <;> simp [check, pid]
  | nowhere check pid => simp [check, pid]

end

/-! ## What is reported of it -/

theorem Check.phase_injective {c k : Check} (h : c.phase = k.phase) : c = k := by
  cases c <;> cases k <;> first | rfl | cases h

namespace Finds

variable {o p : Option Violation} {B C : Violation → Prop}

theorem phase_le (h : Finds o B) {v w : Violation} (hv : o = some v) (hw : B w) :
    v.check.phase ≤ w.check.phase := by
  rcases (h.first v hv).2 w hw with rfl | before
  · exact Nat.le_refl _
  · unfold Violation.Before at before
    omega

/-- Two searches that can find violations of the same checks report the same check. -/
theorem check_eq (h : Finds o B) (k : Finds p C)
    (there : ∀ v, B v → ∃ w, C w ∧ w.check = v.check)
    (back : ∀ w, C w → ∃ v, B v ∧ v.check = w.check) : p.map (·.check) = o.map (·.check) := by
  cases o with
  | none =>
    cases p with
    | none => rfl
    | some w =>
      obtain ⟨v, hv, -⟩ := back w (k.first w rfl).1
      exact absurd hv (h.absent rfl v)
  | some v =>
    cases p with
    | none =>
      obtain ⟨w, hw, -⟩ := there v (h.first v rfl).1
      exact absurd hw (k.absent rfl w)
    | some w =>
      obtain ⟨w', hw', hcheck⟩ := there v (h.first v rfl).1
      obtain ⟨v', hv', hcheck'⟩ := back w (k.first w rfl).1
      have le := h.phase_le rfl hv'
      have ge := k.phase_le rfl hw'
      rw [hcheck'] at le
      rw [hcheck] at ge
      exact congrArg some (Check.phase_injective (Nat.le_antisymm ge le))

/-- Two searches that can both find what either of them reports report the same. -/
theorem eq_of_common (h : Finds o B) (k : Finds p C) {v w : Violation} (hv : o = some v)
    (hw : p = some w) (hvC : C v) (hwB : B w) : w = v := by
  rcases (h.first v hv).2 w hwB with same | before
  · exact same.symm
  rcases (k.first w hw).2 v hvC with same | after
  · exact same
  · exact absurd after before.asymm

end Finds

/-! ## Counts -/

section
variable (r : Renaming) (d : Dump) {p : UInt8} (hp : p ∈ processIds)
include hp

theorem Dump.frameTags_renamed : (r.dump d).frameTags (r.process p) = d.frameTags p := by
  rw [frameTags, (r.digitChar_process hp).2]
  exact List.count_map_of_injective d.physical r.tag r.tag.injective p.toNat.digitChar

theorem Dump.pageTags_renamed : (r.dump d).pageTags (r.process p) = d.pageTags p := by
  rw [pageTags, r.virtualOf_dump d hp, (r.digitChar_process hp).2]
  refine List.countP_congr ?_
  intro i _
  cases ht : (d.virtualOf p)[2 * i]? with
  | none => simp [Renaming.tags, ht]
  | some c => simp [Renaming.tags, ht]

end

namespace Auditor

/-- The warnings are about the processes that the processes have become. -/
theorem warnings_renamed (r : Renaming) (a : Auditor) (g : Stage) {d : Dump} (h : d.WellSized)
    (w : CountWarning) : w ∈ (a.auditDump g (r.dump d)).verdict.warnings ↔
      ∃ u ∈ (a.auditDump g d).verdict.warnings, w = { u with pid := r.process u.pid } := by
  rw [warnings_auditDump a g h, warnings_auditDump a g (r.wellSized_dump h)]
  have moved : ∀ p ∈ processIds, (r.dump d).countWarning g (r.process p) =
      { d.countWarning g p with pid := r.process p } := by
    intro p hp
    rw [Dump.countWarning, Dump.frameTags_renamed r d hp, Dump.pageTags_renamed r d hp]
    rfl
  simp only [List.mem_map, List.mem_filter, decide_eq_true_eq]
  constructor
  · intro hw
    obtain ⟨q, ⟨hq, hne⟩, rfl⟩ := hw
    obtain ⟨p, hp, rfl⟩ : ∃ p ∈ processIds, r.process p = q :=
      ⟨_, (r.symm.digitChar_process hq).1, r.process_symm hq⟩
    rw [Dump.frameTags_renamed r d hp, Dump.pageTags_renamed r d hp] at hne
    exact ⟨_, ⟨p, ⟨hp, hne⟩, rfl⟩, moved p hp⟩
  · intro hw
    obtain ⟨_, ⟨p, ⟨hp, hne⟩, rfl⟩, rfl⟩ := hw
    refine ⟨r.process p, ⟨(r.digitChar_process hp).1, ?_⟩, moved p hp⟩
    rwa [Dump.frameTags_renamed r d hp, Dump.pageTags_renamed r d hp]

/-! ## The verdict -/

theorem passed_eq_isNone (a : Auditor) (g : Stage) {d : Dump} (h : d.WellSized) :
    (a.auditDump g d).verdict.passed = (a.auditDump g d).verdict.violation?.isNone := by
  obtain ⟨image, hd⟩ := Dump.exists_decode_iff.mpr h
  rw [verdict_of_decode hd]
  cases Inspection.firstViolation (g.schedule image) <;> rfl

theorem violation?_finds (a : Auditor) (g : Stage) {d : Dump} (h : d.WellSized) :
    Finds (a.auditDump g d).verdict.violation? (Failing g d) := by
  obtain ⟨image, hd⟩ := Dump.exists_decode_iff.mpr h
  rw [verdict_of_decode hd]
  exact firstViolation_finds hd g

/-- A dump with the right lengths and the dump with its tags renamed, which has the virtual dump of
each process at its new place, both pass or both do not. If they do not, they violate the same
check, and a frame that is reported of the one is reported of the other. They have the same
warnings, each about the process that its process has become. -/
theorem auditDump_renamed (r : Renaming) (a : Auditor) (g : Stage) {d : Dump} (h : d.WellSized) :
    let v := (a.auditDump g d).verdict
    let v' := (a.auditDump g (r.dump d)).verdict
    v'.passed = v.passed ∧
    v'.violation?.map (·.check) = v.violation?.map (·.check) ∧
    (∀ x, v.violation? = some x → x.check = .allocationProgress ∨ x.check = .exhaustion →
      v'.violation? = some x) ∧
    ∀ w, w ∈ v'.warnings ↔ ∃ u ∈ v.warnings, w = { u with pid := r.process u.pid } := by
  intro v v'
  have finds : Finds v.violation? (Failing g d) := violation?_finds a g h
  have finds' : Finds v'.violation? (Failing g (r.dump d)) :=
    violation?_finds a g (r.wellSized_dump h)
  have check : v'.violation?.map (·.check) = v.violation?.map (·.check) := by
    refine finds.check_eq finds' ?_ ?_
    · intro x hx
      obtain ⟨y, hy, hcheck, -⟩ := hx.renamed r
      exact ⟨y, hy, hcheck⟩
    · intro y hy
      obtain ⟨x, hx, hcheck, -⟩ := hy.of_renamed r
      exact ⟨x, hx, hcheck⟩
  refine ⟨?_, check, ?_, warnings_renamed r a g h⟩
  · have none := congrArg Option.isNone check
    rw [Option.isNone_map, Option.isNone_map] at none
    rw [passed_eq_isNone a g h, passed_eq_isNone a g (r.wellSized_dump h), none]
  · intro x hx hframe
    rw [hx] at check
    obtain ⟨y, hy, hyx⟩ := Option.map_eq_some_iff.mp check
    have hxf := (finds.first x hx).1
    have hyf := (finds'.first y hy).1
    have hxpid : x.pid = none := hxf.pid_eq_none_iff.mpr (by rcases hframe with h | h <;> simp [h])
    have hypid : y.pid = none := by
      rwa [hyf.pid_eq_none_iff, hyx, ← hxf.pid_eq_none_iff]
    obtain ⟨x', hx', -, samex⟩ := hxf.renamed r
    obtain ⟨y', hy', -, samey⟩ := hyf.of_renamed r
    rw [samex hxpid] at hx'
    rw [samey hypid] at hy'
    rw [hy, finds.eq_of_common finds' hx hy hx' hy']

/-- The renaming that exchanges processes 1 and 3, and the tag of reserved pages with an unknown
one. -/
def exchange : Renaming where
  tag := (Equiv.swap '1' '3').trans (Equiv.swap 'R' 'x')
  vacant := by decide
  console := by decide
  digits c := by
    simp only [Equiv.trans_apply, Equiv.swap_apply_def]
    split_ifs <;> simp_all

/-- Process 1 lacks a frame that is still free. After the exchange it is process 3 that lacks the
same frame. -/
theorem auditDump_renamed_by_exchange :
    let d : Dump := ⟨List.replicate 488 'R' ++ '.' :: List.replicate 5 '1' ++
      ['2', '3', '4'].flatMap (List.replicate 6),
      #v[stackOnly '1', stackOnly '2', stackOnly '3', stackOnly '4']⟩
    let free : Violation := .atFrame .exhaustion 488 .free (.exhaustion 488)
    d.WellSized ∧ (default.auditDump .four d).verdict = .graded [⟨1, 5, 1, 5⟩] (some free) ∧
    (default.auditDump .four (exchange.dump d)).verdict.passed = false ∧
    (default.auditDump .four (exchange.dump d)).verdict.violation? = some free ∧
    ∀ w, w ∈ (default.auditDump .four (exchange.dump d)).verdict.warnings ↔ w = ⟨3, 5, 1, 5⟩ := by
  intro d free
  have verdict : (default.auditDump .four d).verdict = .graded [⟨1, 5, 1, 5⟩] (some free) := by
    decide +kernel
  have sized : d.WellSized := by
    rw [← Dump.exists_decode_iff]
    cases hd : d.decode with
    | ok image => exact ⟨image, rfl⟩
    | error f => rw [verdict_of_fault hd] at verdict; cases verdict
  obtain ⟨passed, -, frame, warned⟩ := auditDump_renamed exchange default .four sized
  rw [verdict] at passed frame warned
  refine ⟨sized, verdict, passed, frame free rfl (.inr rfl), ?_⟩
  intro w
  rw [warned w]
  have third : exchange.process 1 = 3 := by decide
  simp [Verdict.warnings, third]

end Auditor

end PageAudit
