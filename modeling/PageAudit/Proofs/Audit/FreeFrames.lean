import PageAudit.Proofs.Audit.Endings
import PageAudit.Proofs.Audit.Faults
import PageAudit.Proofs.Audit.Reach

/-!
# What the physical dump decides

The physical dump has a part in the checks only through its free frames, and only through those that
a stage looks at (`Stage.framesSeen`): the first two stages look at none. Who holds the other frames
is counted for the warnings and has no part in the outcome. Since a free frame is all that a check of
frames objects to, a dump that passes still does when free frames are taken.

* `Breach.mono`: what is wrong with a dump is wrong with one that has more free frames;
* `ending_of_frames`: two dumps with the same free frames end alike;
* `outcome_of_free_frames`: which frames count at which stage.
-/
namespace PageAudit

/-- Whether two verdicts are the same but for the warnings. -/
structure Verdict.SameOutcome (v w : Verdict) : Prop where
  passed : v.passed = w.passed
  violation : v.violation? = w.violation?
  fault : v.fault? = w.fault?

theorem Verdict.sameOutcome_of_ending {v w : Verdict} (h : v.ending = w.ending) :
    v.SameOutcome w := by
  cases v with
  | faulty f =>
    cases w with
    | faulty f' =>
      cases h
      exact ⟨rfl, rfl, rfl⟩
    | graded us u => cases u <;> cases h
  | graded ws o =>
    cases w with
    | faulty f' => cases o <;> cases h
    | graded us u =>
      cases o <;> cases u <;> cases h <;> exact ⟨rfl, rfl, rfl⟩

/-- The checks of a stage look at the frames below this one. -/
def Stage.framesSeen : Stage → Nat
  | one | two => 0
  | three => 391
  | four => 512

theorem Stage.framesSeen_mono {s t : Stage} (h : s.number ≤ t.number) :
    s.framesSeen ≤ t.framesSeen := by
  revert h
  cases s <;> cases t <;> decide

/-! ## Breaches and free frames -/

section
variable {d e : Dump} (virtuals : d.virtuals = e.virtuals)
include virtuals

theorem Dump.virtualTexts_congr : d.virtualTexts = e.virtualTexts := by
  rw [virtualTexts, virtualTexts, virtuals]

/-- What is wrong with a dump stays wrong if no frame that the stage looks at is taken. -/
theorem Breach.mono {t : Stage} {v : Violation} (h : Breach d t v)
    (free : ∀ i < t.framesSeen, d.physical[i]? = some '.' → e.physical[i]? = some '.') :
    Breach e t v := by
  have texts := Dump.virtualTexts_congr virtuals
  cases h with
  | kernel hx he hr => exact .kernel (texts ▸ hx) he hr
  | process hx hi he hr => exact .process (texts ▸ hx) hi he hr
  | progress hi hfree => exact .progress hi (free _ hi hfree)
  | exhaustion hi hfree => exact .exhaustion hi (free _ hi hfree)
  | overlap disjoint =>
    refine .overlap ?_
    rwa [Dump.Overlaps, ← texts]
  | stack hx he ho => exact .stack (texts ▸ hx) he ho

theorem Failing.mono {g : Stage} {v : Violation} (h : Failing g d v)
    (free : ∀ i < g.framesSeen, d.physical[i]? = some '.' → e.physical[i]? = some '.') :
    Failing g e v := by
  obtain ⟨t, reached, breach⟩ := h
  refine ⟨t, reached, breach.mono virtuals ?_⟩
  intro i hi
  exact free i (Nat.lt_of_lt_of_le hi (Stage.framesSeen_mono reached))

/-- With as many frames as there are, it is the virtual dumps that have a wrong length. -/
theorem Dump.WrongSize.congr {f : Fault} (h : d.WrongSize f) (hd : d.physical.length = 512)
    (he : e.physical.length = 512) : e.WrongSize f := by
  have texts : ∀ p, d.virtualOf p = e.virtualOf p := by
    intro p
    rw [virtualOf, virtualOf, virtuals]
  cases h with
  | frames wrong => exact absurd hd wrong
  | pages _ lowest =>
    simp only [texts] at lowest ⊢
    exact .pages he lowest

/-! ## Outcomes -/

/-- Two dumps end alike if the same of the frames that a stage looks at are free. -/
theorem Auditor.ending_of_frames (a : Auditor) (g : Stage) (hd : d.physical.length = 512)
    (he : e.physical.length = 512)
    (free : ∀ i < g.framesSeen, d.physical[i]? = some '.' ↔ e.physical[i]? = some '.') :
    (a.auditDump g d).verdict.ending = (a.auditDump g e).verdict.ending := by
  cases decoded : d.decode with
  | error f =>
    have wrong := (Dump.decode_eq_error_iff.mp decoded).congr virtuals hd he
    rw [verdict_of_fault decoded, verdict_of_fault (Dump.decode_eq_error_iff.mpr wrong)]
  | ok image =>
    have sized : d.WellSized := Dump.exists_decode_iff.mp ⟨image, decoded⟩
    obtain ⟨image', decoded'⟩ := Dump.exists_decode_iff.mpr ⟨he, virtuals ▸ sized.2⟩
    have failing : ∀ v, Failing g d v ↔ Failing g e v := by
      intro v
      exact ⟨fun h => h.mono virtuals fun i hi => (free i hi).mp,
        fun h => h.mono virtuals.symm fun i hi => (free i hi).mpr⟩
    have found := firstViolation_finds decoded g
    have found' := (firstViolation_finds decoded' g).congr fun v => (failing v).symm
    have same : Inspection.firstViolation (g.schedule image) =
        Inspection.firstViolation (g.schedule image') := by
      apply Option.ext
      intro v
      rw [found.eq_some_iff, found'.eq_some_iff]
    rw [verdict_of_decode decoded, verdict_of_decode decoded', same]
    cases Inspection.firstViolation (g.schedule image') <;> rfl

/-- A dump that passes still does with fewer free frames. -/
theorem Auditor.passed_of_fewer_free {a : Auditor} {g : Stage}
    (passed : (a.auditDump g d).verdict.passed = true) (he : e.physical.length = 512)
    (free : ∀ i < g.framesSeen, e.physical[i]? = some '.' → d.physical[i]? = some '.') :
    (a.auditDump g e).verdict.passed = true := by
  obtain ⟨sized, sound⟩ := passed_auditDump_iff.mp passed
  refine passed_auditDump_iff.mpr ⟨⟨he, virtuals ▸ sized.2⟩, ?_⟩
  intro v failing
  exact sound v (failing.mono virtuals.symm free)

end

namespace Auditor

/-- A report on a dump that passes says nothing but the warnings and that it passes. -/
theorem diagnostics_of_passed {a : Auditor} {g : Stage} {d : Dump}
    (h : (a.auditDump g d).verdict.passed = true) :
    (a.auditDump g d).diagnostics =
      (a.auditDump g d).verdict.warnings.map (fun w => "warning: ".toList ++ w.describe) ++
        ["PASS: all ".toList ++ g.describe ++ " checks passed".toList] := by
  have laid := (a.auditDump g d).laid
  rw [Verdict.ending_of_passed h, stage_auditDump] at laid
  cases laid with
  | passed _ _ _ diagnostics => exact diagnostics

/-- Of two dumps that differ in their frames, the first two stages give the same outcome. The third
does if the same frames below 391 are free, the last if the same of all are. If free frames of a
dump that passes are taken, by whomever, it still passes, and no more than the warnings of its report
can change. -/
theorem outcome_of_free_frames (a : Auditor) (vs : Vector Text 4) {x y : Text}
    (hx : x.length = 512) (hy : y.length = 512) :
    let d : Dump := ⟨x, vs⟩
    let e : Dump := ⟨y, vs⟩
    (∀ g : Stage, g.number ≤ 2 →
      (a.auditDump g d).verdict.SameOutcome (a.auditDump g e).verdict) ∧
    ((∀ i < 391, x[i]? = some '.' ↔ y[i]? = some '.') →
      (a.auditDump .three d).verdict.SameOutcome (a.auditDump .three e).verdict) ∧
    ((∀ i < 512, x[i]? = some '.' ↔ y[i]? = some '.') →
      (a.auditDump .four d).verdict.SameOutcome (a.auditDump .four e).verdict) ∧
    ((∀ i : Nat, x[i]? = some '.' ∨ y[i]? = x[i]?) →
      ∀ g, (a.auditDump g d).verdict.passed = true →
        (a.auditDump g e).verdict.passed = true ∧
        (a.auditDump g d).verdict.SameOutcome (a.auditDump g e).verdict ∧
        ∃ rest, ∀ f, f = d ∨ f = e → (a.auditDump g f).diagnostics =
          (a.auditDump g f).verdict.warnings.map (fun w => "warning: ".toList ++ w.describe) ++
            rest) := by
  intro d e
  have virtuals : d.virtuals = e.virtuals := rfl
  refine ⟨?_, ?_, ?_, ?_⟩
  · intro g early
    have unseen : g.framesSeen = 0 := by
      revert early
      cases g <;> decide
    refine Verdict.sameOutcome_of_ending (ending_of_frames virtuals a g hx hy ?_)
    intro i hi
    omega
  · intro free
    exact Verdict.sameOutcome_of_ending (ending_of_frames virtuals a .three hx hy free)
  · intro free
    exact Verdict.sameOutcome_of_ending (ending_of_frames virtuals a .four hx hy free)
  · intro taken g passed
    have free : ∀ i < g.framesSeen, y[i]? = some '.' → x[i]? = some '.' := by
      intro i _ free
      rcases taken i with already | kept
      · exact already
      · exact kept.symm.trans free
    have passed' := passed_of_fewer_free virtuals passed hy free
    have ending := (Verdict.ending_of_passed passed).trans (Verdict.ending_of_passed passed').symm
    refine ⟨passed', Verdict.sameOutcome_of_ending ending,
      ["PASS: all ".toList ++ g.describe ++ " checks passed".toList], ?_⟩
    rintro f (rfl | rfl)
    · exact diagnostics_of_passed passed
    · exact diagnostics_of_passed passed'

/-- With the last twelve frames free the third stage passes, and it still does where process 1 takes
them, with other warnings. Where process 1 has the frames that were not free, the last stage finds
frame 500 as before. -/
theorem outcome_of_free_frames_on_stacks :
    let vs := #v[stackOnly '1', stackOnly '2', stackOnly '3', stackOnly '4']
    let x := List.replicate 500 'R' ++ List.replicate 12 '.'
    let d : Dump := ⟨x, vs⟩
    let taken : Dump := ⟨List.replicate 500 'R' ++ List.replicate 12 '1', vs⟩
    let other : Dump := ⟨List.replicate 500 '1' ++ List.replicate 12 '.', vs⟩
    x.length = 512 ∧ taken.physical.length = 512 ∧ other.physical.length = 512 ∧
    (default.auditDump .three d).verdict.passed = true ∧
    (default.auditDump .three taken).verdict.passed = true ∧
    (default.auditDump .three taken).verdict.warnings ≠
      (default.auditDump .three d).verdict.warnings ∧
    (default.auditDump .four d).verdict.violation? =
      some (.atFrame .exhaustion 500 .free (.exhaustion 500)) ∧
    (default.auditDump .four other).verdict.violation? =
      some (.atFrame .exhaustion 500 .free (.exhaustion 500)) := by
  intro vs x d taken other
  have frames : ∀ {s : Text}, s.length = 500 → ∀ {t : Text}, t.length = 12 → (s ++ t).length = 512 :=
    fun hs _ ht => by rw [List.length_append, hs, ht]
  have lenX : x.length = 512 := frames List.length_replicate List.length_replicate
  have lenT : taken.physical.length = 512 := frames List.length_replicate List.length_replicate
  have lenO : other.physical.length = 512 := frames List.length_replicate List.length_replicate
  have passed : (default.auditDump .three d).verdict.passed = true := by decide +kernel
  have found : (default.auditDump .four d).verdict.violation? =
      some (.atFrame .exhaustion 500 .free (.exhaustion 500)) := by decide +kernel
  have changed : ∀ i : Nat, x[i]? = some '.' ∨ taken.physical[i]? = x[i]? := by
    intro i
    simp only [x, taken, List.getElem?_append, List.getElem?_replicate, List.length_replicate]
    split
    · exact .inr rfl
    · split <;> simp
  have same : ∀ i < 512, x[i]? = some '.' ↔ other.physical[i]? = some '.' := by
    intro i _
    simp only [x, other, List.getElem?_append, List.getElem?_replicate, List.length_replicate]
    split <;> simp
  obtain ⟨-, -, -, keeps⟩ := outcome_of_free_frames default vs lenX lenT
  obtain ⟨-, -, last, -⟩ := outcome_of_free_frames default vs lenX lenO
  have warned : (default.auditDump .three taken).verdict.warnings ≠
      (default.auditDump .three d).verdict.warnings := by decide +kernel
  exact ⟨lenX, lenT, lenO, passed, (keeps changed .three passed).1, warned, found,
    (last same).violation.symm.trans found⟩

end Auditor

end PageAudit
