import PageAudit.Proofs.Audit.FirstBreach
import Mathlib.Order.Bounds.Basic

/-!
# The fault of a dump

Any of the five texts of a dump can have a wrong length. The fault is the first of them, in a fixed
order (`Dump.WrongSize`): the frames, whatever the processes have, and then the lowest process. What
the texts consist of has no part in it, and neither has the stage. Lengths are counted in
characters.

* `decode_eq_error_iff`: a dump is refused for the first text of a wrong length;
* `fault_auditDump_first`: the report on a dump with a fault.
-/
namespace PageAudit

open Steps

/-- The first text of a dump that has a wrong length, as a fault. -/
inductive Dump.WrongSize (d : Dump) : Fault → Prop
  | frames (wrong : d.physical.length ≠ 512) : WrongSize d (.frameTags d.physical.length)
  | pages {p : UInt8} (frames : d.physical.length = 512)
      (lowest : IsLeast {q | q ∈ processIds ∧ (d.virtualOf q).length ≠ 1536} p) :
      WrongSize d (.pageTags p (d.virtualOf p).length)

/-! ## One text -/

theorem FrameMap.decode_eq_error_iff {raw : Text} {f : Fault} :
    FrameMap.decode raw = .error f ↔ raw.length ≠ frameCount ∧ f = .frameTags raw.length := by
  unfold FrameMap.decode
  split
  · next h => simp [h]
  · next h => simp [h, eq_comm (a := f)]

theorem AddressSpace.decode_eq_error_iff {p : UInt8} {raw : Text} {f : Fault} :
    AddressSpace.decode p raw = .error f ↔
      raw.length ≠ 2 * pageCount ∧ f = .pageTags p raw.length := by
  unfold AddressSpace.decode
  split
  · next h => simp [h]
  · next h => simp [h, eq_comm (a := f)]

/-! ## All texts -/

namespace Dump

variable {d : Dump} {f : Fault}

theorem virtualTexts_ascending (d : Dump) :
    d.virtualTexts.Pairwise fun x y => x.1 < y.1 := by
  have pids : (d.virtualTexts.map Prod.fst).Pairwise (· < ·) := by
    obtain ⟨p, a, b, c, e, rfl⟩ := exists_mk d
    show processIds.Pairwise (· < ·)
    decide
  exact List.pairwise_map.mp pids

/-- The virtual dumps are read in the order of the processes, so it is the lowest that is refused. -/
theorem decode_virtualTexts_eq_error_iff :
    d.virtualTexts.mapM (fun x => AddressSpace.decode x.1 x.2) = .error f ↔
      ∃ p, IsLeast {q | q ∈ processIds ∧ (d.virtualOf q).length ≠ 1536} p ∧
        f = .pageTags p (d.virtualOf p).length := by
  have ascending := d.virtualTexts_ascending
  rw [mapM_eq_error_iff]
  constructor
  · intro fails
    obtain ⟨before, ⟨p, raw⟩, behind, split, fault, sound⟩ := fails
    have mem : (p, raw) ∈ d.virtualTexts := split ▸ List.mem_append_right _ List.mem_cons_self
    obtain ⟨hp, rfl⟩ : p ∈ processIds ∧ raw = d.virtualOf p := mem_virtualTexts_iff.mp mem
    obtain ⟨wrong, rfl⟩ := AddressSpace.decode_eq_error_iff.mp fault
    refine ⟨p, ⟨⟨hp, wrong⟩, ?_⟩, rfl⟩
    intro q hq
    have mem : (q, d.virtualOf q) ∈ d.virtualTexts := mem_virtualTexts_iff.mpr ⟨hq.1, rfl⟩
    rw [split] at mem ascending
    rcases List.mem_append.mp mem with mem | mem
    · exact absurd ((AddressSpace.exists_decode_iff _ _).mp (sound _ mem)) hq.2
    rcases List.mem_cons.mp mem with same | mem
    · cases same
      exact UInt8.le_refl p
    · have later := (List.pairwise_append.mp ascending).2.1
      exact UInt8.le_of_lt ((List.pairwise_cons.mp later).1 _ mem)
  · intro refused
    obtain ⟨p, ⟨⟨hp, wrong⟩, lowest⟩, rfl⟩ := refused
    have mem : (p, d.virtualOf p) ∈ d.virtualTexts := mem_virtualTexts_iff.mpr ⟨hp, rfl⟩
    obtain ⟨before, behind, split⟩ := List.append_of_mem mem
    refine ⟨before, _, behind, split, AddressSpace.decode_eq_error_iff.mpr ⟨wrong, rfl⟩, ?_⟩
    intro x hx
    have lower : x.1 < p := by
      rw [split] at ascending
      exact (List.pairwise_append.mp ascending).2.2 x hx _ List.mem_cons_self
    obtain ⟨hq, hraw⟩ := mem_virtualTexts_iff.mp (split ▸ List.mem_append_left _ hx)
    rw [AddressSpace.exists_decode_iff, hraw]
    by_contra wrong
    exact UInt8.not_le.mpr lower (lowest ⟨hq, wrong⟩)

theorem decode_eq_error_iff : d.decode = .error f ↔ d.WrongSize f := by
  unfold decode
  rw [bind_eq_error_iff, FrameMap.decode_eq_error_iff]
  constructor
  · intro fails
    rcases fails with ⟨wrong, rfl⟩ | ⟨frames, ok, fails⟩
    · exact .frames wrong
    rcases bind_eq_error_iff.mp fails with fails | ⟨spaces, -, fails⟩
    · obtain ⟨p, lowest, rfl⟩ := decode_virtualTexts_eq_error_iff.mp fails
      exact .pages ((FrameMap.exists_decode_iff _).mp ⟨frames, ok⟩) lowest
    · cases fails
  · intro wrong
    cases wrong with
    | frames wrong => exact .inl ⟨wrong, rfl⟩
    | pages frames lowest =>
      obtain ⟨m, ok⟩ := (FrameMap.exists_decode_iff _).mpr frames
      have fails := decode_virtualTexts_eq_error_iff.mpr ⟨_, lowest, rfl⟩
      exact .inr ⟨m, ok, bind_eq_error_iff.mpr (.inl fails)⟩

end Dump

/-! ## The report -/

namespace Auditor

variable {a : Auditor} {g : Stage} {d : Dump} {f : Fault}

/-- Nothing is looked at in a dump with a fault. -/
theorem auditDump_of_wrongSize (h : d.WrongSize f) : a.auditDump g d =
    ⟨g, .faulty f, d.rows a.width,
      [⟨.info, "grading ".toList ++ g.describe⟩, ⟨.error, f.message⟩]⟩ := by
  unfold auditDump
  rw [Dump.decode_eq_error_iff.mpr h]
  rfl

theorem fault?_auditDump_eq_some_iff :
    (a.auditDump g d).verdict.fault? = some f ↔ d.WrongSize f := by
  rw [← Dump.decode_eq_error_iff]
  cases hd : d.decode with
  | error f' => simp [verdict_of_fault hd, Verdict.fault?]
  | ok image => simp [verdict_of_decode hd, Verdict.fault?]

theorem fault?_auditDump_eq_none_iff :
    (a.auditDump g d).verdict.fault? = none ↔ d.WellSized := by
  rw [← Dump.exists_decode_iff]
  cases hd : d.decode with
  | error f => simp [verdict_of_fault hd, Verdict.fault?]
  | ok image => simp [verdict_of_decode hd, Verdict.fault?]

/-- The fault of a dump is the wrong length of its frames or, if that is right, of the lowest process
that has one. There is none if all lengths are right. It is the same at every stage. With a fault no
violation is found, no warning is given, and the log of the run says nothing else: the memory has not
been looked at. -/
theorem fault_auditDump_first (a : Auditor) (d : Dump) :
    (∀ g f, (a.auditDump g d).verdict.fault? = some f ↔ d.WrongSize f) ∧
    (∀ g, (a.auditDump g d).verdict.fault? = none ↔
      d.physical.length = 512 ∧ ∀ p ∈ processIds, (d.virtualOf p).length = 1536) ∧
    (∀ g g', (a.auditDump g d).verdict.fault? = (a.auditDump g' d).verdict.fault?) ∧
    ∀ g f, d.WrongSize f →
      (a.auditDump g d).verdict.violation? = none ∧ (a.auditDump g d).verdict.warnings = [] ∧
      (a.auditDump g d).verdict.passed = false ∧
      (a.auditDump g d).trace =
        [⟨.info, "grading ".toList ++ g.describe⟩, ⟨.error, f.message⟩] := by
  refine ⟨fun g f => fault?_auditDump_eq_some_iff, ?_, ?_, ?_⟩
  · intro g
    rw [fault?_auditDump_eq_none_iff, Dump.wellSized_iff]
  · intro g g'
    apply Option.ext
    intro f
    rw [fault?_auditDump_eq_some_iff, fault?_auditDump_eq_some_iff]
  · intro g f wrong
    rw [auditDump_of_wrongSize wrong]
    exact ⟨rfl, rfl, rfl, rfl⟩

/-- Of three wrong lengths that of process 2 is the fault, a single character of two bytes, as long as
the frames are 512 characters of three bytes. With one frame more the frames are the fault. -/
theorem fault_auditDump_first_of_characters :
    let vs : Vector Text 4 := #v[List.replicate 1536 'K', ['é'], List.replicate 1535 'K', []]
    let d : Dump := ⟨List.replicate 512 '…', vs⟩
    let e : Dump := ⟨List.replicate 513 '…', vs⟩
    (∀ g, (default.auditDump g d).verdict.fault? = some (.pageTags 2 1) ∧
      (default.auditDump g d).verdict.warnings = []) ∧
    ∀ g, (default.auditDump g e).verdict.fault? = some (.frameTags 513) ∧
      (default.auditDump g e).verdict.violation? = none := by
  intro vs d e
  obtain ⟨faultD, -, -, reportD⟩ := fault_auditDump_first default d
  obtain ⟨faultE, -, -, reportE⟩ := fault_auditDump_first default e
  have lowest : IsLeast {q | q ∈ processIds ∧ (d.virtualOf q).length ≠ 1536} 2 := by
    refine ⟨⟨by decide, by decide⟩, ?_⟩
    rintro q ⟨hq, wrong⟩
    revert q
    rw [forall_mem_processIds]
    refine ⟨fun wrong => absurd List.length_replicate wrong, ?_⟩
    exact ⟨fun _ => by decide, fun _ => by decide, fun _ => by decide⟩
  have frames : e.physical.length = 513 := List.length_replicate
  have wrongD : d.WrongSize (.pageTags 2 1) := .pages List.length_replicate lowest
  have wrongE : e.WrongSize (.frameTags 513) := by
    rw [← frames]
    exact .frames (by rw [frames]; decide)
  exact ⟨fun g => ⟨(faultD g _).mpr wrongD, (reportD g _ wrongD).2.1⟩,
    fun g => ⟨(faultE g _).mpr wrongE, (reportE g _ wrongE).1⟩⟩

end Auditor

end PageAudit
