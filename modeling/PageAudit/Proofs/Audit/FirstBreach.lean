import PageAudit.Audit.Auditor
import PageAudit.Proofs.Audit.Search
import PageAudit.Proofs.Memory.Decoding

/-!
# The first breach is the violation

What can be wrong with a dump is stated page by page and frame by frame (`Breach`), without an
order in which to look; at a stage, the breaches of that stage and of those before it count
(`Failing`). An audit gives the first of them in the order of `Violation.Before`, with what the
dump shows at that place.

* `kernelRule_eq_some_iff`, `processRule_eq_some_iff`: the rule that a page breaks;
* `ownChecks_finds`: the checks of one stage find its first breach;
* `firstViolation_finds`: so do the checks of all stages up to one;
* `passed_auditDump_iff`, `auditDump_violation?_least`: what that makes of the verdict on a dump.
-/
namespace PageAudit

/-! ## What a page can break -/

/-- The rule of kernel isolation that page `i` of an address space breaks. The console page has
a rule of its own and no other. -/
inductive KernelBreach (i : Nat) (e : Entry) : Rule → Prop
  | console : i = 184 → ¬ (e.owner = .console ∧ e.user = true) → KernelBreach i e .console
  | kernelMemory : i ≠ 184 → i < 256 → e.user = true → KernelBreach i e .kernelMemory
  | unmappedAccess : 256 ≤ i → e.user = true → e.owner = .unmapped →
      KernelBreach i e .unmappedAccess

/-- The rule of isolation that a page of user memory breaks for the process `p`. -/
inductive ProcessBreach (p : UInt8) (e : Entry) : Rule → Prop
  | foreignPage : e.owner ≠ .unmapped → e.owner ≠ .process p → ProcessBreach p e .foreignPage
  | ownPage : e.owner = .process p → e.user = false → ProcessBreach p e .ownPage

theorem kernelRule_eq_some_iff {i : Nat} {e : Entry} {r : Rule} :
    kernelRule i e = some r ↔ KernelBreach i e r := by
  have hconsole : consolePage = 184 := rfl
  have hboundary : kernelBoundary = 256 := rfl
  constructor
  · intro h
    unfold kernelRule at h
    split at h
    · split at h
      · cases h
      · next hi hrule =>
        cases h
        exact .console (by omega) hrule
    split at h
    · next hi hrule =>
      cases h
      exact .kernelMemory (by omega) (by omega) hrule.2
    split at h
    · next hi hkernel hrule =>
      cases h
      have hi' : 256 ≤ i := by
        by_contra hlt
        exact hkernel ⟨by omega, hrule.1⟩
      exact .unmappedAccess hi' hrule.1 (by simpa [Owner.isMapped] using hrule.2)
    · cases h
  · intro h
    unfold kernelRule
    cases h with
    | console hi hrule => rw [if_pos (by omega), if_neg hrule]
    | kernelMemory hi hlt hu => rw [if_neg (by omega), if_pos ⟨by omega, hu⟩]
    | unmappedAccess hi hu ho =>
      rw [if_neg (by omega), if_neg (by omega), if_pos ⟨hu, by simp [Owner.isMapped, ho]⟩]

theorem processRule_eq_some_iff {p : UInt8} {e : Entry} {r : Rule} :
    processRule p e = some r ↔ ProcessBreach p e r := by
  constructor
  · intro h
    unfold processRule at h
    split at h
    · cases h
    next hmapped =>
    split at h
    · next howner =>
      cases h
      exact .foreignPage (by simpa [Owner.isMapped] using hmapped) howner
    next howner =>
    split at h
    · next huser =>
      cases h
      exact .ownPage (by simpa using howner) (by simpa using huser)
    · cases h
  · intro h
    unfold processRule
    cases h with
    | foreignPage hm ho => simp [Owner.isMapped, hm, ho]
    | ownPage ho hu => simp [Owner.isMapped, ho, hu]

/-! ## What can be wrong with a dump -/

/-- Whether two of the address spaces of a dump overlap. -/
def Dump.Overlaps (d : Dump) : Prop :=
  ∃ x ∈ d.virtualTexts, ∃ y ∈ d.virtualTexts, Overlap (Entry.at? x.2) (Entry.at? y.2)

/-- What a stage, taken alone, objects to in a dump. -/
inductive Breach (d : Dump) : Stage → Violation → Prop
  | kernel {p : UInt8} {raw : Text} {i : Nat} {e : Entry} {r : Rule} :
      (p, raw) ∈ d.virtualTexts → Entry.at? raw i = some e → KernelBreach i e r →
      Breach d .one (.atPage .kernelIsolation p i e r)
  | process {p : UInt8} {raw : Text} {i : Nat} {e : Entry} {r : Rule} :
      (p, raw) ∈ d.virtualTexts → 256 ≤ i → Entry.at? raw i = some e → ProcessBreach p e r →
      Breach d .two (.atPage .processIsolation p i e r)
  | progress {i : Nat} : i < 391 → d.physical[i]? = some '.' →
      Breach d .three (.atFrame .allocationProgress i .free (.progress i))
  | exhaustion {i : Nat} : i < 512 → d.physical[i]? = some '.' →
      Breach d .four (.atFrame .exhaustion i .free (.exhaustion i))
  | overlap : ¬ d.Overlaps → Breach d .four (.general .overlap .overlap)
  | stack {p : UInt8} {raw : Text} {e : Entry} :
      (p, raw) ∈ d.virtualTexts → Entry.at? raw 767 = some e → e.owner ≠ .process p →
      Breach d .four (.atPage .stackPlacement p 767 e .stack)

/-- What a stage and those before it object to in a dump. -/
def Failing (g : Stage) (d : Dump) (v : Violation) : Prop :=
  ∃ t : Stage, t.number ≤ g.number ∧ Breach d t v

/-- The parts of a violation, by what of a dump it is about: a page of a process, which it gives as it
is, a free frame, or no place at all. -/
inductive Violation.About (d : Dump) (v : Violation) (r : Rule) : Prop
  | page {p : UInt8} {raw : Text} {i : Nat} {e : Entry} (text : (p, raw) ∈ d.virtualTexts)
      (entry : Entry.at? raw i = some e)
      (check : v.check ∈ [.kernelIsolation, .processIsolation, .stackPlacement])
      (pid : v.pid = some p) (index : v.index = some i) (owner : v.owner = some e.owner)
      (user : v.user = some e.user) (message : v.message = r.message)
  | frame {i : Nat} (free : d.physical[i]? = some '.')
      (check : v.check ∈ [.allocationProgress, .exhaustion]) (pid : v.pid = none)
      (index : v.index = some i) (owner : v.owner = some .free) (user : v.user = none)
      (message : v.message = r.message)
  | nowhere (check : v.check = .overlap) (pid : v.pid = none) (index : v.index = none)
      (owner : v.owner = none) (user : v.user = none) (message : v.message = r.message)

theorem Breach.about {d : Dump} {t : Stage} {v : Violation} (h : Breach d t v) :
    ∃ r, v.About d r := by
  have ofPage : ∀ {c p raw i e r}, v = .atPage c p i e r → (p, raw) ∈ d.virtualTexts →
      Entry.at? raw i = some e → c ∈ [.kernelIsolation, .processIsolation, .stackPlacement] →
      v.About d r := by
    intro c p raw i e r kind text entry among
    obtain ⟨rfl, pid, index, owner, user, message⟩ := Violation.eq_atPage_iff.mp kind
    exact .page text entry among pid index owner user message
  have ofFrame : ∀ {c i r}, v = .atFrame c i .free r → d.physical[i]? = some '.' →
      c ∈ [.allocationProgress, .exhaustion] → v.About d r := by
    intro c i r kind free among
    obtain ⟨rfl, pid, index, owner, user, message⟩ := Violation.eq_atFrame_iff.mp kind
    exact .frame free among pid index owner user message
  have ofNone : ∀ {r}, v = .general .overlap r → v.About d r := by
    intro r kind
    obtain ⟨check, pid, index, owner, user, message⟩ := Violation.eq_general_iff.mp kind
    exact .nowhere check pid index owner user message
  cases h with
  | kernel text entry _ => exact ⟨_, ofPage rfl text entry (by decide)⟩
  | process text _ entry _ => exact ⟨_, ofPage rfl text entry (by decide)⟩
  | progress _ free => exact ⟨_, ofFrame rfl free (by decide)⟩
  | exhaustion _ free => exact ⟨_, ofFrame rfl free (by decide)⟩
  | overlap _ => exact ⟨_, ofNone rfl⟩
  | stack text entry _ => exact ⟨_, ofPage rfl text entry (by decide)⟩

/-- Checks come in the order of stages, and only the last stage has more than one. -/
theorem Breach.phase {d : Dump} {t : Stage} {v : Violation} (h : Breach d t v) :
    t.number.toNat ≤ v.check.phase ∧ (t.number.toNat < 4 → v.check.phase = t.number.toNat) := by
  cases h <;>
    simp [Stage.number, Check.phase, Violation.atPage, Violation.atFrame, Violation.general]

theorem Breach.before {d : Dump} {s t : Stage} {v w : Violation} (hst : s.number < t.number)
    (hv : Breach d s v) (hw : Breach d t w) : v.Before w := by
  have hlt : s.number.toNat < t.number.toNat := UInt8.lt_iff_toNat_lt.mp hst
  have hle : t.number.toNat ≤ 4 := by cases t <;> decide
  have hs := hv.phase.2 (by omega)
  have ht := hw.phase.1
  exact .inl (by omega)

/-! ## What the checks of a stage find -/

theorem Inspection.firstViolation_flatMap {α : Type} (l : List α) (f : α → List Inspection) :
    firstViolation (l.flatMap f) = l.findSome? fun a => firstViolation (f a) := by
  induction l with
  | nil => rfl
  | cons a l ih =>
    rw [List.flatMap_cons, List.findSome?_cons, ← ih]
    simp only [firstViolation, List.findSome?_append]
    cases List.findSome? _ (f a) <;> rfl

section
variable {d : Dump} {image : Image} (h : d.decode = .ok image)
include h

theorem Dump.ascending_of_decode :
    image.spaces.Pairwise fun a b => a.pid.toNat < b.pid.toNat := by
  have ids : processIds.Pairwise fun p q => p.toNat < q.toNat := by decide
  rw [← Dump.pids_of_decode h] at ids
  exact (List.pairwise_map (R := fun p q : UInt8 => p.toNat < q.toNat)).mp ids

/-- A check of one address space, made for every process of a dump. -/
theorem Dump.finds_in_spaces (check : Check) {f : AddressSpace → Option Violation}
    {B : UInt8 → (Nat → Option Entry) → Violation → Prop}
    (hf : ∀ s ∈ image.spaces, Finds (f s) (B s.pid s.entry?))
    (place : ∀ p g v, B p g v → v.check = check ∧ v.pid = some p) :
    Finds (image.spaces.findSome? f) (fun v => ∃ x ∈ d.virtualTexts, B x.1 (Entry.at? x.2) v) := by
  refine (Finds.findSome? hf ?_).congr fun v => Dump.exists_space_iff h (P := fun p g => B p g v)
  refine (Dump.ascending_of_decode h).imp ?_
  intro a b hab v w hv hw
  obtain ⟨hvc, hvp⟩ := place _ _ v hv
  obtain ⟨hwc, hwp⟩ := place _ _ w hw
  refine .inr ⟨by rw [hvc, hwc], .inl ?_⟩
  simpa [Violation.processNumber, hvp, hwp] using hab

theorem Dump.frame_free_iff {i : Nat} :
    image.frames.owner? i = some .free ↔ d.physical[i]? = some '.' := by
  rw [FrameMap.owner?_of_decode (Dump.decode_eq_ok_iff.mp h).1]
  simp [ofTag_eq_free_iff]

theorem ownChecks_one_finds :
    Finds (Inspection.firstViolation (Stage.one.ownChecks image)) (Breach d .one) := by
  rw [Inspection.firstViolation, Stage.ownChecks, List.findSome?_map]
  have spaces := Dump.finds_in_spaces h .kernelIsolation
    (B := fun p g v => ∃ i e r, g i = some e ∧ kernelRule i e = some r ∧
      v = .atPage .kernelIsolation p i e r)
    (fun s _ => s.kernelIsolation_finds) ?_
  · refine spaces.congr fun v => ?_
    constructor
    · intro hspace
      obtain ⟨⟨p, raw⟩, hx, i, e, r, he, hr, rfl⟩ := hspace
      exact .kernel hx he (kernelRule_eq_some_iff.mp hr)
    · intro hv
      cases hv with
      | kernel hx he hr => exact ⟨_, hx, _, _, _, he, kernelRule_eq_some_iff.mpr hr, rfl⟩
  · intro p g v hv
    obtain ⟨i, e, r, -, -, rfl⟩ := hv
    exact ⟨rfl, rfl⟩

theorem ownChecks_two_finds :
    Finds (Inspection.firstViolation (Stage.two.ownChecks image)) (Breach d .two) := by
  rw [Inspection.firstViolation, Stage.ownChecks, List.findSome?_map]
  have spaces := Dump.finds_in_spaces h .processIsolation
    (B := fun p g v => ∃ i e r, 256 ≤ i ∧ g i = some e ∧ processRule p e = some r ∧
      v = .atPage .processIsolation p i e r)
    (fun s _ => s.processIsolation_finds s.pid) ?_
  · refine spaces.congr fun v => ?_
    constructor
    · intro hspace
      obtain ⟨⟨p, raw⟩, hx, i, e, r, hi, he, hr, rfl⟩ := hspace
      exact .process hx hi he (processRule_eq_some_iff.mp hr)
    · intro hv
      cases hv with
      | process hx hi he hr => exact ⟨_, hx, _, _, _, hi, he, processRule_eq_some_iff.mpr hr, rfl⟩
  · intro p g v hv
    obtain ⟨i, e, r, -, -, -, rfl⟩ := hv
    exact ⟨rfl, rfl⟩

theorem Dump.freeFrame_finds (check : Check) (stop : Nat) (rule : Nat → Rule) :
    Finds (image.frames.freeFrame check stop rule) (fun v => ∃ i, i < stop ∧
      d.physical[i]? = some '.' ∧ v = .atFrame check i .free (rule i)) :=
  (image.frames.freeFrame_finds check stop rule).congr fun v => by
    simp only [Dump.frame_free_iff h]

theorem ownChecks_three_finds :
    Finds (Inspection.firstViolation (Stage.three.ownChecks image)) (Breach d .three) := by
  have single : Inspection.firstViolation (Stage.three.ownChecks image) =
      image.frames.freeFrame .allocationProgress progressEnd .progress :=
    List.findSome?_singleton
  rw [single]
  refine (Dump.freeFrame_finds h .allocationProgress progressEnd .progress).congr fun v => ?_
  constructor
  · intro hframe
    obtain ⟨i, hi, hfree, rfl⟩ := hframe
    exact .progress hi hfree
  · intro hv
    cases hv with
    | progress hi hfree => exact ⟨_, hi, hfree, rfl⟩

theorem ownChecks_four_finds :
    Finds (Inspection.firstViolation (Stage.four.ownChecks image)) (Breach d .four) := by
  have three : Inspection.firstViolation (Stage.four.ownChecks image) =
      (image.frames.freeFrame .exhaustion frameCount .exhaustion).or
        ((AddressSpace.missingOverlap (AddressSpace.firstOverlap image.spaces)).or
          (image.spaces.findSome? fun s => s.stackPlacement s.pid)) := by
    rw [Inspection.firstViolation, Stage.ownChecks, List.findSome?_append, List.findSome?_map,
      ← List.singleton_append, List.findSome?_append, List.findSome?_singleton,
      List.findSome?_singleton, Option.or_assoc]
    rfl
  have frames := Dump.freeFrame_finds h .exhaustion frameCount .exhaustion
  have overlap := AddressSpace.overlap_finds image.spaces
  have placed := Dump.finds_in_spaces h .stackPlacement
    (B := fun p g v => ∃ e, g stackPage = some e ∧ e.owner ≠ .process p ∧
      v = .atPage .stackPlacement p stackPage e .stack)
    (fun s _ => s.stackPlacement_finds s.pid) fun p g v hv => by
      obtain ⟨e, -, -, rfl⟩ := hv
      exact ⟨rfl, rfl⟩
  have overlaps : (∃ a ∈ image.spaces, ∃ b ∈ image.spaces, Overlap a.entry? b.entry?) ↔
      d.Overlaps := by
    rw [Dump.exists_space_iff h (P := fun _ g => ∃ b ∈ image.spaces, Overlap g b.entry?)]
    refine exists_congr fun x => and_congr_right fun _ => ?_
    exact Dump.exists_space_iff h (P := fun _ g => Overlap (Entry.at? x.2) g)
  rw [three]
  refine (frames.or (overlap.or placed ?_) ?_).congr fun v => ?_
  · intro v w hv hw
    obtain ⟨-, rfl⟩ := hv
    obtain ⟨x, -, e, -, -, rfl⟩ := hw
    exact .of_check .overlap .stackPlacement rfl rfl (by decide)
  · intro v w hv hw
    obtain ⟨i, -, -, rfl⟩ := hv
    rcases hw with ⟨-, rfl⟩ | ⟨x, -, e, -, -, rfl⟩
    · exact .of_check .exhaustion .overlap rfl rfl (by decide)
    · exact .of_check .exhaustion .stackPlacement rfl rfl (by decide)
  · rw [overlaps]
    constructor
    · intro hfound
      rcases hfound with ⟨i, hi, hfree, rfl⟩ | ⟨hno, rfl⟩ | ⟨⟨p, raw⟩, hx, e, he, ho, rfl⟩
      · exact .exhaustion hi hfree
      · exact .overlap hno
      · exact .stack hx he ho
    · intro hv
      cases hv with
      | exhaustion hi hfree => exact .inl ⟨_, hi, hfree, rfl⟩
      | overlap hno => exact .inr (.inl ⟨hno, rfl⟩)
      | stack hx he ho => exact .inr (.inr ⟨_, hx, _, he, ho, rfl⟩)

theorem ownChecks_finds (t : Stage) :
    Finds (Inspection.firstViolation (t.ownChecks image)) (Breach d t) := by
  cases t with
  | one => exact ownChecks_one_finds h
  | two => exact ownChecks_two_finds h
  | three => exact ownChecks_three_finds h
  | four => exact ownChecks_four_finds h

/-! ## What an audit finds -/

/-- A stage looks for the breaches of the stages before it first. -/
theorem firstViolation_finds (g : Stage) :
    Finds (Inspection.firstViolation (g.schedule image)) (Failing g d) := by
  have ascending : [Stage.one, .two, .three, .four].Pairwise fun s t => s.number < t.number := by
    decide
  have stages : Inspection.firstViolation (g.schedule image) =
      ([Stage.one, .two, .three, .four].filter g.reaches).findSome? fun t =>
        Inspection.firstViolation (t.ownChecks image) :=
    Inspection.firstViolation_flatMap _ _
  rw [stages]
  refine (Finds.findSome? (fun t _ => ownChecks_finds h t) ?_).congr fun v => ?_
  · exact (ascending.filter g.reaches).imp fun hst v w => Breach.before hst
  · have all : ∀ t, t ∈ [Stage.one, .two, .three, .four] := by intro t; cases t <;> decide
    simp only [List.mem_filter, all, true_and, Stage.reaches, decide_eq_true_eq, Failing]

end

/-! ## The verdict on a dump -/

theorem Verdict.passed_eq_true_iff {v : Verdict} :
    v.passed = true ↔ v.fault? = none ∧ v.violation? = none := by
  cases v with
  | faulty f => simp [passed, fault?]
  | graded ws o => cases o <;> simp [passed, fault?, violation?]

namespace Auditor

variable {a : Auditor} {g : Stage} {d : Dump}

theorem verdict_of_decode {image : Image} (h : d.decode = .ok image) :
    (a.auditDump g d).verdict =
      .graded (image.warnings g) (Inspection.firstViolation (g.schedule image)) := by
  simp only [auditDump, h]

theorem verdict_of_fault {f : Fault} (h : d.decode = .error f) :
    (a.auditDump g d).verdict = .faulty f := by
  simp only [auditDump, h]

/-- A dump passes if it has the right lengths and nothing in it fails. -/
theorem passed_auditDump_iff :
    (a.auditDump g d).verdict.passed = true ↔ d.WellSized ∧ ∀ v, ¬ Failing g d v := by
  rw [Verdict.passed_eq_true_iff, ← Dump.exists_decode_iff]
  cases h : d.decode with
  | error f => simp [verdict_of_fault h, Verdict.fault?]
  | ok image =>
    simpa [verdict_of_decode h, Verdict.fault?, Verdict.violation?] using
      (firstViolation_finds h g).eq_none_iff

/-- A dump with the right lengths is graded. If nothing in it fails there is no violation, and
otherwise the violation is the first of all that fails, by check, process and page. -/
theorem auditDump_violation?_least (a : Auditor) (g : Stage) {d : Dump} (h : d.WellSized) :
    (a.auditDump g d).verdict.fault? = none ∧
    ((a.auditDump g d).verdict.violation? = none ↔ ∀ v, ¬ Failing g d v) ∧
    ∀ v, (a.auditDump g d).verdict.violation? = some v ↔
      Failing g d v ∧ ∀ w, Failing g d w → v = w ∨ v.Before w := by
  obtain ⟨image, hd⟩ := Dump.exists_decode_iff.mpr h
  have first := firstViolation_finds hd g
  rw [verdict_of_decode hd]
  exact ⟨rfl, first.eq_none_iff, fun v => first.eq_some_iff⟩

/-- Where no page is mapped, the first thing that fails is the console page of process 1. -/
theorem auditDump_violation?_least_unmapped :
    let raw := List.replicate 1536 '.'
    let d : Dump := ⟨List.replicate 512 '.', Vector.replicate 4 raw⟩
    d.WellSized ∧ (default.auditDump .four d).verdict.violation? =
      some (.atPage .kernelIsolation 1 184 ⟨.unmapped, false⟩ .console) := by
  intro raw d
  have sized : d.WellSized := Dump.wellSized_replicate '.' '.'
  have texts : ∀ {p t}, (p, t) ∈ d.virtualTexts → t = raw ∧ (p = 1 ∨ 1 < p.toNat) := by
    intro p t ht
    have ht' : (p, t) ∈ [(1, raw), (2, raw), (3, raw), (4, raw)] := ht
    simp only [List.mem_cons, Prod.mk.injEq, List.not_mem_nil, or_false] at ht'
    rcases ht' with ⟨rfl, rfl⟩ | ⟨rfl, rfl⟩ | ⟨rfl, rfl⟩ | ⟨rfl, rfl⟩ <;> exact ⟨rfl, by decide⟩
  have page : ∀ {i e}, Entry.at? raw i = some e → e = ⟨.unmapped, false⟩ := by
    intro i e he
    obtain ⟨tag, flag, ht, hf, rfl⟩ := Entry.at?_eq_some_iff.mp he
    obtain ⟨-, rfl⟩ := List.mem_replicate.mp (List.mem_of_getElem? ht)
    obtain ⟨-, rfl⟩ := List.mem_replicate.mp (List.mem_of_getElem? hf)
    rfl
  have console : Breach d .one (.atPage .kernelIsolation 1 184 ⟨.unmapped, false⟩ .console) := by
    have hx : (1, raw) ∈ d.virtualTexts := List.mem_cons_self
    refine .kernel hx ?_ (.console rfl (by simp))
    exact Entry.at?_eq_some_iff.mpr ⟨'.', '.', List.getElem?_replicate_of_lt (by decide),
      List.getElem?_replicate_of_lt (by decide), rfl⟩
  have least := (auditDump_violation?_least default .four sized).2.2
  refine ⟨sized, (least _).mpr ⟨⟨.one, by decide, console⟩, ?_⟩⟩
  intro w hfailing
  obtain ⟨t, -, hw⟩ := hfailing
  cases t with
  | one =>
    obtain ⟨hx, he, hr⟩ := hw
    obtain ⟨rfl, hp⟩ := texts hx
    obtain rfl := page he
    cases hr with
    | console hi _ =>
      subst hi
      exact hp.imp (fun hp => by rw [hp]) fun hp => .inr ⟨rfl, .inl hp⟩
    | kernelMemory _ _ hu => cases hu
    | unmappedAccess _ hu _ => cases hu
  | two => exact .inr (Breach.before (by decide) console hw)
  | three => exact .inr (Breach.before (by decide) console hw)
  | four => exact .inr (Breach.before (by decide) console hw)

end Auditor

end PageAudit
