import PageAudit.Audit.Inspection
import Mathlib.Data.List.Pairwise
import Mathlib.Order.Bounds.Basic

/-!
# Searches for the first violation

Checks look at pages, series of checks at address spaces, stages at series of checks, and each
of these loops ends with the first violation that it meets. `Finds o B` says that `o` is the
first of the violations `B` in the order of checks, processes and pages (`Violation.Before`),
or nothing if there are none. One lemma (`Finds.findSome?`) carries this through every loop.

* `AddressSpace.pages_finds`: the search through the pages of an address space;
* `firstFree_eq_some_iff`, `firstOverlap_eq_none_iff`: what the searches of the other checks say;
* `kernelIsolation_finds` to `stackPlacement_finds`: what each check finds.
-/
namespace PageAudit

/-! ## The order of violations -/

/-- The place of a check among the checks of an audit. -/
def Check.phase : Check → Nat
  | countConsistency => 0
  | kernelIsolation => 1
  | processIsolation => 2
  | allocationProgress => 3
  | exhaustion => 4
  | overlap => 5
  | stackPlacement => 6

namespace Violation

/-- The process of a violation, zero if it is not that of one process. -/
def processNumber (v : Violation) : Nat := v.pid.elim 0 UInt8.toNat

/-- The page or frame of a violation, zero if there is none. -/
def pageNumber (v : Violation) : Nat := v.index.getD 0

/-- Violations are ordered by check, then by process, then by page or frame. -/
def Before (v w : Violation) : Prop :=
  v.check.phase < w.check.phase ∨ v.check.phase = w.check.phase ∧
    (v.processNumber < w.processNumber ∨
      v.processNumber = w.processNumber ∧ v.pageNumber < w.pageNumber)

theorem Before.asymm {v w : Violation} (h : v.Before w) : ¬ w.Before v := by
  unfold Before at *
  omega

theorem Before.of_check {v w : Violation} (c k : Check) (hv : v.check = c) (hw : w.check = k)
    (h : c.phase < k.phase) : v.Before w := by
  subst hv hw
  exact .inl h

end Violation

/-! ## Searches -/

/-- The outcome of a search: the first of the violations `B`, or nothing if there are none. -/
structure Finds (o : Option Violation) (B : Violation → Prop) : Prop where
  first : ∀ v, o = some v → B v ∧ ∀ w, B w → v = w ∨ v.Before w
  absent : o = none → ∀ v, ¬ B v

namespace Finds

variable {α : Type} {o p : Option Violation} {B C : Violation → Prop}

/-- A look at one place. -/
theorem leaf (o : Option Violation) : Finds o (fun v => o = some v) := by
  refine ⟨?_, ?_⟩
  · intro v h
    obtain rfl := h
    exact ⟨rfl, fun w hw => .inl (Option.some.inj hw)⟩
  · intro h v hv
    obtain rfl := h
    cases hv

theorem congr (h : Finds o B) (hBC : ∀ v, B v ↔ C v) : Finds o C := by
  obtain rfl : B = C := funext fun v => propext (hBC v)
  exact h

/-- One search after another: what the second looks for comes after what the first does. -/
theorem or (h : Finds o B) (k : Finds p C) (order : ∀ v w, B v → C w → v.Before w) :
    Finds (o.or p) (fun v => B v ∨ C v) := by
  cases o with
  | some u =>
    obtain ⟨hu, least⟩ := h.first u rfl
    refine ⟨?_, fun hn => by cases hn⟩
    intro v hv
    cases hv
    exact ⟨.inl hu, fun w hw => hw.elim (least w) fun hw => .inr (order u w hu hw)⟩
  | none =>
    have hB := h.absent rfl
    refine ⟨?_, fun hn v hv => hv.elim (hB v) (k.absent hn v)⟩
    intro v hv
    obtain ⟨hC, least⟩ := k.first v hv
    exact ⟨.inr hC, fun w hw => hw.elim (fun hw => absurd hw (hB w)) (least w)⟩

/-- A loop over searches in ascending order of what they look for. -/
theorem findSome? {l : List α} {f : α → Option Violation} {B : α → Violation → Prop}
    (h : ∀ a ∈ l, Finds (f a) (B a))
    (order : l.Pairwise fun a b => ∀ v w, B a v → B b w → v.Before w) :
    Finds (l.findSome? f) (fun v => ∃ a ∈ l, B a v) := by
  induction l with
  | nil => exact ⟨fun v hv => by simp at hv, fun _ v hv => by simp at hv⟩
  | cons a l ih =>
    rw [List.pairwise_cons] at order
    have rest := ih (fun b hb => h b (List.mem_cons_of_mem a hb)) order.2
    have both := (h a List.mem_cons_self).or rest fun v w hv hw => by
      obtain ⟨b, hb, hw⟩ := hw
      exact order.1 b hb v w hv hw
    have step : (a :: l).findSome? f = (f a).or (l.findSome? f) := by
      rw [List.findSome?_cons]
      cases f a <;> rfl
    rw [step]
    exact both.congr fun v => by simp

theorem eq_none_iff (h : Finds o B) : o = none ↔ ∀ v, ¬ B v := by
  refine ⟨h.absent, ?_⟩
  intro hB
  cases o with
  | none => rfl
  | some v => exact absurd (h.first v rfl).1 (hB v)

theorem eq_some_iff (h : Finds o B) {v : Violation} :
    o = some v ↔ B v ∧ ∀ w, B w → v = w ∨ v.Before w := by
  refine ⟨h.first v, ?_⟩
  intro hfirst
  obtain ⟨hv, least⟩ := hfirst
  cases o with
  | none => exact absurd hv (h.absent rfl v)
  | some u =>
    obtain ⟨hu, least'⟩ := h.first u rfl
    rcases least u hu with rfl | huv
    · rfl
    · rcases least' v hv with rfl | hvu
      · rfl
      · exact absurd hvu huv.asymm

end Finds

/-! ## What each check finds -/

/-- A search through a list gives the least of the places at which it can end. -/
theorem findIdx?_eq_some_iff_isLeast {α : Type} {l : List α} {p : α → Bool} {n : Nat} :
    l.findIdx? p = some n ↔ IsLeast {i | ∃ a, l[i]? = some a ∧ p a = true} n := by
  rw [List.findIdx?_eq_some_iff_getElem]
  constructor
  · rintro ⟨inside, here, before⟩
    refine ⟨⟨_, List.getElem?_eq_getElem inside, here⟩, ?_⟩
    rintro i ⟨a, ha, hp⟩
    obtain ⟨_, rfl⟩ := List.getElem?_eq_some_iff.mp ha
    by_contra earlier
    exact before i (Nat.lt_of_not_le earlier) hp
  · rintro ⟨⟨a, ha, hp⟩, least⟩
    obtain ⟨inside, rfl⟩ := List.getElem?_eq_some_iff.mp ha
    refine ⟨inside, hp, ?_⟩
    intro i earlier found
    exact absurd (least ⟨_, List.getElem?_eq_getElem _, found⟩) (Nat.not_le_of_lt earlier)

namespace AddressSpace

theorem pages_ascending (s : AddressSpace) : s.pages.Pairwise fun a b => a.2 < b.2 := by
  have indices : (s.pages.map Prod.snd).Pairwise (· < ·) := by
    rw [pages, List.zipIdx_map_snd]
    exact List.pairwise_lt_range'
  exact List.pairwise_map.mp indices

theorem mem_pages_drop_iff {s : AddressSpace} {n i : Nat} {e : Entry} :
    (e, i) ∈ s.pages.drop n ↔ n ≤ i ∧ s.entry? i = some e := by
  simp only [pages, List.mem_iff_getElem?, List.getElem?_drop, List.getElem?_zipIdx,
    Option.map_eq_some_iff, Prod.mk.injEq, entry?]
  constructor
  · intro h
    obtain ⟨j, e', he, rfl, rfl⟩ := h
    exact ⟨by omega, by simpa using he⟩
  · intro h
    obtain ⟨hn, he⟩ := h
    exact ⟨i - n, e, by rwa [Nat.add_sub_cancel' hn], rfl, by omega⟩

/-- The search through the pages of an address space from the page `n` on. -/
theorem pages_finds (s : AddressSpace) (check : Check) (pid : UInt8)
    (rule : Nat → Entry → Option Rule) (n : Nat) :
    Finds ((s.pages.drop n).findSome? fun (e, i) => (rule i e).map (.atPage check pid i e))
      (fun v => ∃ i e r, n ≤ i ∧ s.entry? i = some e ∧ rule i e = some r ∧
        v = .atPage check pid i e r) := by
  refine (Finds.findSome? (fun a _ => .leaf _) ?_).congr ?_
  · refine s.pages_ascending.drop.imp ?_
    intro a b hab v w hv hw
    obtain ⟨r, -, rfl⟩ := Option.map_eq_some_iff.mp hv
    obtain ⟨r', -, rfl⟩ := Option.map_eq_some_iff.mp hw
    exact .inr ⟨rfl, .inr ⟨rfl, hab⟩⟩
  · intro v
    constructor
    · intro h
      obtain ⟨⟨e, i⟩, hmem, hv⟩ := h
      obtain ⟨r, hr, rfl⟩ := Option.map_eq_some_iff.mp hv
      obtain ⟨hn, he⟩ := mem_pages_drop_iff.mp hmem
      exact ⟨i, e, r, hn, he, hr, rfl⟩
    · intro h
      obtain ⟨i, e, r, hn, he, hr, rfl⟩ := h
      exact ⟨(e, i), mem_pages_drop_iff.mpr ⟨hn, he⟩, by simp [hr]⟩

theorem kernelIsolation_finds (s : AddressSpace) :
    Finds s.kernelIsolation (fun v => ∃ i e r, s.entry? i = some e ∧ kernelRule i e = some r ∧
      v = .atPage .kernelIsolation s.pid i e r) := by
  have h := s.pages_finds .kernelIsolation s.pid kernelRule 0
  rw [List.drop_zero] at h
  exact h.congr fun v => by simp only [Nat.zero_le, true_and]

theorem processIsolation_finds (s : AddressSpace) (pid : UInt8) :
    Finds (s.processIsolation pid) (fun v => ∃ i e r, kernelBoundary ≤ i ∧ s.entry? i = some e ∧
      processRule pid e = some r ∧ v = .atPage .processIsolation pid i e r) :=
  s.pages_finds .processIsolation pid (fun _ => processRule pid) kernelBoundary

end AddressSpace

namespace FrameMap

variable {m : FrameMap} {start stop : Nat}

/-- What stands at a place of the range that is searched. -/
theorem range_getElem? (m : FrameMap) (start stop k : Nat) :
    ((m.owners.take stop).drop start)[k]? =
      if start + k < stop then m.owner? (start + k) else none := by
  rw [List.getElem?_drop, List.getElem?_take, owner?]

theorem firstFree_eq_some_iff {i : Nat} :
    m.firstFree start stop = some i ↔ (start ≤ i ∧ i < stop ∧ m.owner? i = some .free) ∧
      ∀ j, start ≤ j → j < i → m.owner? j ≠ some .free := by
  have free : ∀ k, (∃ o, ((m.owners.take stop).drop start)[k]? = some o ∧ o.isFree = true) ↔
      start + k < stop ∧ m.owner? (start + k) = some .free := by
    intro k
    rw [range_getElem?]
    split <;> simp [Owner.isFree, *]
  simp only [firstFree, Option.map_eq_some_iff, findIdx?_eq_some_iff_isLeast, free]
  constructor
  · rintro ⟨k, ⟨⟨hlt, hfree⟩, least⟩, rfl⟩
    refine ⟨⟨Nat.le_add_right start k, hlt, hfree⟩, ?_⟩
    intro j hj hjk hjfree
    obtain ⟨n, rfl⟩ := Nat.exists_eq_add_of_le hj
    have first : k ≤ n := least ⟨by omega, hjfree⟩
    omega
  · rintro ⟨⟨hle, hlt, hfree⟩, before⟩
    obtain ⟨k, rfl⟩ := Nat.exists_eq_add_of_le hle
    refine ⟨k, ⟨⟨hlt, hfree⟩, ?_⟩, rfl⟩
    rintro n ⟨-, hnfree⟩
    by_contra earlier
    exact before (start + n) (Nat.le_add_right start n) (by omega) hnfree

theorem firstFree_eq_none_iff :
    m.firstFree start stop = none ↔ ∀ i, start ≤ i → i < stop → m.owner? i ≠ some .free := by
  simp only [firstFree, Option.map_eq_none_iff, List.findIdx?_eq_none_iff,
    List.mem_iff_getElem?, range_getElem?]
  constructor
  · intro h i hle hlt hfree
    have := h .free ⟨i - start, by rw [Nat.add_sub_cancel' hle, if_pos hlt, hfree]⟩
    cases this
  · intro h o ho
    obtain ⟨k, hk⟩ := ho
    split at hk
    · next hlt =>
      cases ho : o.isFree with
      | false => rfl
      | true =>
        simp only [Owner.isFree, decide_eq_true_eq] at ho
        subst ho
        exact absurd hk (h (start + k) (by omega) hlt)
    · cases hk

theorem freeFrame_finds (m : FrameMap) (check : Check) (stop : Nat)
    (rule : Nat → Rule) :
    Finds (m.freeFrame check stop rule) (fun v => ∃ i, i < stop ∧ m.owner? i = some .free ∧
      v = .atFrame check i .free (rule i)) := by
  unfold freeFrame
  refine ⟨?_, ?_⟩
  · intro v hv
    obtain ⟨i, hi, rfl⟩ := Option.map_eq_some_iff.mp hv
    obtain ⟨⟨-, hlt, hfree⟩, before⟩ := firstFree_eq_some_iff.mp hi
    refine ⟨⟨i, hlt, hfree, rfl⟩, ?_⟩
    intro w hw
    obtain ⟨j, -, hj, rfl⟩ := hw
    rcases Nat.lt_trichotomy i j with hij | rfl | hji
    · exact .inr (.inr ⟨rfl, .inr ⟨rfl, hij⟩⟩)
    · exact .inl rfl
    · exact absurd hj (before j (Nat.zero_le j) hji)
  · intro hn v h
    obtain ⟨i, hlt, hfree, -⟩ := h
    exact firstFree_eq_none_iff.mp (Option.map_eq_none_iff.mp hn) i (Nat.zero_le i) hlt
      hfree

end FrameMap

theorem Entry.conflicts_eq_true_iff {x y : Entry} :
    x.conflicts y = true ↔ x.owner ≠ .unmapped ∧ y.owner ≠ .unmapped ∧ x.owner ≠ y.owner := by
  simp [Entry.conflicts, Owner.isMapped, and_assoc]

/-- Two mappings of pages overlap: both map the same page, to different owners. -/
def Overlap (f g : Nat → Option Entry) : Prop :=
  ∃ i x y, f i = some x ∧ g i = some y ∧
    x.owner ≠ .unmapped ∧ y.owner ≠ .unmapped ∧ x.owner ≠ y.owner

theorem Overlap.symm {f g : Nat → Option Entry} (h : Overlap f g) : Overlap g f := by
  obtain ⟨i, x, y, hx, hy, hxm, hym, hne⟩ := h
  exact ⟨i, y, x, hy, hx, hym, hxm, hne.symm⟩

theorem Overlap.irrefl (f : Nat → Option Entry) : ¬ Overlap f f := by
  intro h
  obtain ⟨i, x, y, hx, hy, -, -, hne⟩ := h
  rw [hx] at hy
  cases hy
  exact hne rfl

namespace AddressSpace

theorem firstConflict_eq_none_iff {a b : AddressSpace} :
    a.firstConflict b = none ↔ ¬ Overlap a.entry? b.entry? := by
  rw [firstConflict_eq, List.findIdx?_eq_none_iff]
  simp only [List.mem_iff_getElem?, List.getElem?_zip_eq_some, Bool.eq_false_iff]
  constructor
  · intro h hov
    obtain ⟨i, x, y, hx, hy, hc⟩ := hov
    exact h (x, y) ⟨i, hx, hy⟩ (Entry.conflicts_eq_true_iff.mpr hc)
  · intro h xy hxy hc
    obtain ⟨x, y⟩ := xy
    obtain ⟨i, hx, hy⟩ := hxy
    exact h ⟨i, x, y, hx, hy, Entry.conflicts_eq_true_iff.mp hc⟩

theorem firstOverlap_eq_none_iff {ss : List AddressSpace} :
    firstOverlap ss = none ↔ ss.Pairwise fun a b => ¬ Overlap a.entry? b.entry? := by
  simp only [← firstConflict_eq_none_iff]
  induction ss with
  | nil => simp [firstOverlap]
  | cons a r ih => simp [firstOverlap, overlapWith, ih, List.findSome?_eq_none_iff]

/-- The pairs that are searched stand for all: overlap is symmetric, and nothing overlaps itself. -/
theorem overlap_finds (ss : List AddressSpace) :
    Finds (missingOverlap (firstOverlap ss)) (fun v =>
      (¬ ∃ a ∈ ss, ∃ b ∈ ss, Overlap a.entry? b.entry?) ∧ v = .general .overlap .overlap) := by
  have pairs : firstOverlap ss = none ↔ ¬ ∃ a ∈ ss, ∃ b ∈ ss, Overlap a.entry? b.entry? := by
    rw [firstOverlap_eq_none_iff]
    constructor
    · intro h hov
      obtain ⟨a, ha, b, hb, hab⟩ := hov
      have : Std.Symm fun a b : AddressSpace => ¬ Overlap a.entry? b.entry? :=
        ⟨fun _ _ h h' => h h'.symm⟩
      exact h.forall_of_forall (fun a _ => Overlap.irrefl a.entry?) ha hb hab
    · intro h
      exact List.pairwise_of_forall_mem_list fun a ha b hb hab => h ⟨a, ha, b, hb, hab⟩
  refine (Finds.leaf _).congr ?_
  intro v
  rw [← pairs]
  cases firstOverlap ss <;> simp [missingOverlap, eq_comm]

theorem entry?_stackPage (s : AddressSpace) : s.entry? stackPage = some s.lastEntry := by
  simp [lastEntry, entry?]

theorem stackPlacement_finds (s : AddressSpace) (pid : UInt8) :
    Finds (s.stackPlacement pid) (fun v => ∃ e, s.entry? stackPage = some e ∧
      e.owner ≠ .process pid ∧ v = .atPage .stackPlacement pid stackPage e .stack) := by
  refine (Finds.leaf _).congr ?_
  intro v
  unfold stackPlacement
  split
  · next h => simp [s.entry?_stackPage, h]
  · next h => simp [s.entry?_stackPage, h, eq_comm]

end AddressSpace

end PageAudit
