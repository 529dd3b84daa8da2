import PageAudit.Proofs.Audit.Search
import PageAudit.Proofs.Memory.Decoding
import Mathlib.Algebra.Ring.Nat

/-!
# Ranges of frames

A free frame is looked for between two bounds of which nothing is asked: they may be in the wrong
order, and a bound past the last frame is as good as the last frame. The search walks through the
frames of the range that there are, so it can be stopped anywhere and taken up again.

* `firstFree_eq_find?`: the search as a walk through indices;
* `firstFree_append`: a range searched in two parts;
* `firstFree_in_range`: what a search finds, for any two bounds.
-/
namespace PageAudit.FrameMap

variable {m : FrameMap} {start stop i : Nat}

theorem lt_frameCount_of_owner? {o : Owner} (h : m.owner? i = some o) : i < frameCount := by
  rw [← m.length_owners]
  exact (List.getElem?_eq_some_iff.mp h).1

/-- The end of the memory ends a range too: there is no free frame behind it. -/
theorem free_below_iff : (i < min stop frameCount ∧ m.owner? i = some .free) ↔
    i < stop ∧ m.owner? i = some .free := by
  constructor
  · intro h
    exact ⟨by omega, h.2⟩
  · intro h
    have inside := lt_frameCount_of_owner? h.2
    exact ⟨by omega, h.2⟩

theorem firstFree_eq_some_iff_isLeast : m.firstFree start stop = some i ↔
    IsLeast {j | start ≤ j ∧ j < min stop frameCount ∧ m.owner? j = some .free} i := by
  simp only [free_below_iff]
  rw [firstFree_eq_some_iff]
  constructor
  · intro h
    obtain ⟨here, before⟩ := h
    refine ⟨here, ?_⟩
    intro j hj
    obtain ⟨from_start, -, free⟩ := hj
    by_contra earlier
    exact before j from_start (by omega) free
  · intro h
    obtain ⟨here, least⟩ := h
    refine ⟨here, ?_⟩
    intro j from_start earlier free
    have below : j < stop := by have := here.2.1; omega
    have := least ⟨from_start, below, free⟩
    omega

theorem firstFree_eq_none_iff_not_exists : m.firstFree start stop = none ↔
    ¬ ∃ j, start ≤ j ∧ j < min stop frameCount ∧ m.owner? j = some .free := by
  simp only [free_below_iff]
  rw [firstFree_eq_none_iff]
  simp

theorem lt_frameCount_of_firstFree (h : m.firstFree start stop = some i) : i < frameCount :=
  lt_frameCount_of_owner? (firstFree_eq_some_iff.mp h).1.2.2

/-- The search looks at one frame of the range after the other, as far as there are frames. -/
theorem firstFree_eq_find? (m : FrameMap) (start stop : Nat) : m.firstFree start stop =
    (List.range' start (min stop frameCount - start)).find? fun i => m.owner? i = some .free := by
  cases h : m.firstFree start stop with
  | none =>
    rw [firstFree_eq_none_iff] at h
    rw [eq_comm, List.find?_range'_eq_none]
    intro i from_start below
    simpa using h i from_start (by omega)
  | some i =>
    have inside := lt_frameCount_of_firstFree h
    obtain ⟨⟨from_start, below, free⟩, before⟩ := firstFree_eq_some_iff.mp h
    rw [eq_comm, List.find?_range'_eq_some, List.mem_range'_1]
    refine ⟨by simpa using free, by omega, ?_⟩
    intro j hj earlier
    simpa using before j hj earlier

/-- A range can be searched up to any place in it and then from there on. -/
theorem firstFree_append (m : FrameMap) {a b c : Nat} (hab : a ≤ b) (hbc : b ≤ c) :
    m.firstFree a c = (m.firstFree a b).or (m.firstFree b c) := by
  simp only [firstFree_eq_find?]
  rw [← List.find?_append]
  by_cases inside : b ≤ frameCount
  · -- the two walks meet at `b`
    have lengths : min c frameCount - a = (min b frameCount - a) + (min c frameCount - b) := by omega
    have meet : b = a + (min b frameCount - a) := by omega
    rw [lengths, ← List.range'_append_1, ← meet]
  · -- the first walk already comes to the last frame
    have rest : min c frameCount - b = 0 := by omega
    rw [rest, List.range'_zero, List.append_nil, Nat.min_eq_right (by omega), Nat.min_eq_right (by omega)]

/-- The search gives the lowest free frame that is in the range and exists, for any two bounds, and
nothing exactly if there is none. A range may be searched in two parts, the second only if nothing is
found in the first. What is found is the number of a frame. -/
theorem firstFree_in_range (m : FrameMap) :
    (∀ start stop i, m.firstFree start stop = some i ↔
      IsLeast {j | start ≤ j ∧ j < min stop 512 ∧ m.owner? j = some .free} i) ∧
    (∀ start stop, m.firstFree start stop = none ↔
      ¬ ∃ j, start ≤ j ∧ j < min stop 512 ∧ m.owner? j = some .free) ∧
    (∀ a b c, a ≤ b → b ≤ c → m.firstFree a c =
      match m.firstFree a b with
      | some i => some i
      | none => m.firstFree b c) ∧
    ∀ start stop i, m.firstFree start stop = some i → i < 512 := by
  refine ⟨?_, ?_, ?_, ?_⟩
  · intro start stop i
    exact firstFree_eq_some_iff_isLeast
  · intro start stop
    exact firstFree_eq_none_iff_not_exists
  · intro a b c hab hbc
    rw [firstFree_append m hab hbc]
    cases m.firstFree a b <;> rfl
  · intro start stop i found
    exact lt_frameCount_of_firstFree found

/-- Frame 400 and the last one are free. A search far past the memory finds the first of them, and
with it no frame before it; from 401 on it finds the other, from 512 on nothing, nor between bounds in
the wrong order. -/
theorem firstFree_in_range_past_memory :
    let raw := List.replicate 400 'K' ++ '.' :: List.replicate 110 '1' ++ ['.']
    ∃ m, decode raw = .ok m ∧ m.firstFree 0 (2 ^ 64 - 1) = some 400 ∧
      (∀ j < 400, m.owner? j ≠ some .free) ∧ m.firstFree 401 (2 ^ 64 - 1) = some 511 ∧
      m.firstFree 512 (2 ^ 64 - 1) = none ∧ m.firstFree 401 400 = none := by
  intro raw
  obtain ⟨m, h⟩ := (exists_decode_iff raw).mpr (by decide +kernel)
  have found : (decode raw).toOption.map
      (fun m => (m.firstFree 0 401, m.firstFree 401 (2 ^ 64 - 1))) = some (some 400, some 511) := by
    decide +kernel
  rw [h] at found
  obtain ⟨low, high⟩ := Prod.mk.inj (Option.some.inj found)
  obtain ⟨least, absent, parts, -⟩ := firstFree_in_range m
  have whole := parts 0 401 (2 ^ 64 - 1) (by decide) (by decide)
  rw [low] at whole
  refine ⟨m, h, whole, ?_, high, ?_, ?_⟩
  · intro j hj free
    have := ((least 0 401 400).mp low).2 ⟨Nat.zero_le j, by omega, free⟩
    omega
  · rw [absent]
    omega
  · rw [absent]
    omega

end PageAudit.FrameMap
