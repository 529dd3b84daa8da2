import PageAudit.Dump.Rows
import Mathlib.Data.Nat.Basic
import Mathlib.Order.Basic

/-!
# The rows of a log, line by line

Every line of a log has a block of rows of its own, and the blocks stand in the order of the
lines. A line that shows no dump is cut into rows of twice the width (`TextBlock`). A line of a
dump is cut into rows of as many pages as the width says, and each row is labelled with the number
of its first page (`DataBlock`). The label is computed from the number of the row, the rest of the
row is what the cutting left there; they agree because piece `k` of a cutting starts `k` pieces
from the beginning.

* `chunks_getElem?`, `length_chunks`, `flatten_take_chunks`: the pieces that a list is cut into;
* `textBlock_textRows`, `dataBlock_dumpRows`: the rows of one line;
* `rows_blocks`: the rows of all lines.
-/
namespace PageAudit

/-! ## Pieces -/

section
variable {α : Type} {n : Nat} (pos : 0 < n) (l : List α)

/-- Piece `k` starts at `k * n`, if the list goes on there. -/
theorem chunks_getElem? (k : Nat) :
    (chunks n pos l)[k]? = if k * n < l.length then some ((l.drop (k * n)).take n) else none := by
  induction k generalizing l with
  | zero =>
    rw [chunks]
    by_cases hl : l = []
    · simp [hl]
    · simp [hl, List.length_pos_iff.mpr hl]
  | succ k ih =>
    rw [chunks]
    by_cases hl : l = []
    · simp [hl]
    · rw [if_neg hl, List.getElem?_cons_succ, ih, List.length_drop, List.drop_drop, Nat.succ_mul,
        Nat.add_comm n]
      have here : k * n < l.length - n ↔ k * n + n < l.length := by omega
      simp only [here]

theorem lt_length_chunks_iff {k : Nat} : k < (chunks n pos l).length ↔ k * n < l.length := by
  have piece := chunks_getElem? pos l k
  constructor
  · intro hk
    by_contra hend
    rw [if_neg hend, List.getElem?_eq_none_iff] at piece
    omega
  · intro hk
    rw [if_pos hk] at piece
    exact (List.getElem?_eq_some_iff.mp piece).1

/-- There are as many pieces as it takes to cover the list. -/
theorem length_chunks : (chunks n pos l).length = (l.length + n - 1) / n := by
  apply eq_of_forall_lt_iff
  intro k
  rw [lt_length_chunks_iff, Nat.lt_iff_add_one_le, Nat.lt_iff_add_one_le,
    Nat.le_div_iff_mul_le pos, Nat.succ_mul]
  omega

theorem length_of_chunks_getElem? {k : Nat} {r : List α} (h : (chunks n pos l)[k]? = some r) :
    r.length = min n (l.length - k * n) ∧ r ≠ [] := by
  rw [chunks_getElem?] at h
  split at h
  · next hk =>
    cases h
    have len : ((l.drop (k * n)).take n).length = min n (l.length - k * n) := by
      rw [List.length_take, List.length_drop]
    refine ⟨len, ?_⟩
    apply List.ne_nil_of_length_pos
    omega
  · cases h

/-- The first `k` pieces are the beginning of the list. -/
theorem flatten_take_chunks (k : Nat) : ((chunks n pos l).take k).flatten = l.take (k * n) := by
  induction k with
  | zero => simp
  | succ k ih =>
    rw [List.take_add_one, List.flatten_append, ih, chunks_getElem?, Nat.succ_mul, List.take_add]
    by_cases hk : k * n < l.length
    · simp [hk]
    · simp [hk, List.drop_eq_nil_of_le (Nat.not_lt.mp hk)]

end

/-! ## One line -/

/-- The rows of a line that shows no dump, `w` being the width. -/
structure TextBlock (w : Nat) (l : Text) (b : List Text) : Prop where
  short : l.length ≤ 2 * w → b = [l]
  whole : b.flatten = l
  full : ∀ k r, k + 1 < b.length → b[k]? = some r → r.length = 2 * w
  last : 2 * w < l.length → ∃ r, b.getLast? = some r ∧ r ≠ [] ∧ r.length ≤ 2 * w

theorem textBlock_textRows (w : Width) (l : Text) : TextBlock w l (textRows w l) := by
  have wide : 0 < 2 * w.val := Nat.mul_pos (by decide) w.2
  by_cases short : l.length ≤ 2 * w
  · rw [textRows, if_pos short]
    refine ⟨fun _ => rfl, by simp, ?_, ?_⟩
    · intro k r hk
      simp at hk
    · omega
  · rw [textRows, if_neg short]
    refine ⟨fun h => absurd h short, flatten_chunks _ _ l, ?_, ?_⟩
    · intro k r hk hr
      have next := (lt_length_chunks_iff wide l).mp hk
      rw [Nat.succ_mul] at next
      rw [(length_of_chunks_getElem? wide l hr).1]
      omega
    · intro _
      have some : 0 < (chunks (2 * w) wide l).length := by
        rw [lt_length_chunks_iff]
        omega
      have final := List.getElem?_eq_getElem (show (chunks (2 * w) wide l).length - 1 <
        (chunks (2 * w) wide l).length by omega)
      obtain ⟨len, nonempty⟩ := length_of_chunks_getElem? wide l final
      refine ⟨_, List.getLast?_eq_getElem?.trans final, nonempty, ?_⟩
      omega

/-- The rows of a dump line without the labels in front of them. -/
def payloads (w : Nat) (b : List Text) : List Text :=
  b.mapIdx fun k r => r.drop (pageLabel (k * w)).length

/-- The rows of a dump line with `c` characters for a page, `w` being the width. -/
structure DataBlock (w c : Nat) (l : Text) (b : List Text) : Prop where
  empty : l = [] → b = [[]]
  count : l ≠ [] → b.length = (l.length + w * c - 1) / (w * c)
  /-- A row has its label and then its part of the line. -/
  row : l ≠ [] → ∀ k, k < b.length → b[k]? = some
    ("0x".toList ++ (Nat.toDigits 16 (k * w)).leftpad 3 '0' ++ " ".toList ++
      l.extract (k * w * c) (min l.length ((k + 1) * w * c)))
  whole : (payloads w b).flatten = l
  full : ∀ k r, k + 1 < b.length → (payloads w b)[k]? = some r → r.length = w * c
  /-- A row starts with a whole page. -/
  aligned : ∀ k, k < b.length →
    ((payloads w b).take k).flatten.length = k * w * c ∧ c ∣ k * w * c

theorem payloads_dumpRows (w : Width) (c : Nat) (pos : 0 < c) (l : Text) :
    payloads w (dumpRows w c pos l) =
      if l = [] then [[]] else chunks (w * c) (Nat.mul_pos w.2 pos) l := by
  unfold dumpRows payloads
  split
  · simp
  · rw [List.mapIdx_mapIdx]
    apply List.ext_getElem?
    intro k
    rw [List.getElem?_mapIdx]
    simp [Function.comp_def]

/-- An empty line of a dump has one row, without a label. -/
theorem dataBlock_nil (w c : Nat) : DataBlock w c [] [[]] := by
  have pays : payloads w [[]] = [[]] := by simp [payloads]
  refine ⟨fun _ => rfl, fun h => absurd rfl h, fun h => absurd rfl h, ?_, ?_, ?_⟩
  · rw [pays]
    rfl
  · intro k r hk
    simp at hk
  · intro k hk
    obtain rfl : k = 0 := by simpa using hk
    simp

theorem dataBlock_dumpRows (w : Width) (c : Nat) (pos : 0 < c) (l : Text) :
    DataBlock w c l (dumpRows w c pos l) := by
  by_cases hl : l = []
  · subst hl
    exact dataBlock_nil w c
  have wide : 0 < w.val * c := Nat.mul_pos w.2 pos
  have cut : dumpRows w c pos l =
      (chunks (w * c) wide l).mapIdx fun k r => pageLabel (k * w) ++ r := if_neg hl
  have len : (dumpRows w c pos l).length = (chunks (w * c) wide l).length := by
    rw [cut, List.length_mapIdx]
  have pays := payloads_dumpRows w c pos l
  rw [if_neg hl] at pays
  refine ⟨fun h => absurd h hl, ?_, ?_, ?_, ?_, ?_⟩
  · intro _
    rw [len, length_chunks]
  · intro _ k hk
    rw [len, lt_length_chunks_iff] at hk
    -- row `k` is cut off after `k` whole rows, where its label says that it starts
    have part : (l.drop (k * (w * c))).take (w * c) =
        l.extract (k * w * c) (min l.length ((k + 1) * w * c)) := by
      rw [List.extract_eq_take_drop, Nat.mul_assoc, Nat.mul_assoc, Nat.succ_mul,
        List.take_eq_take_iff, List.length_drop]
      omega
    rw [cut, List.getElem?_mapIdx, chunks_getElem?, if_pos hk, part]
    rfl
  · rw [pays, flatten_chunks]
  · intro k r hk hr
    rw [len, lt_length_chunks_iff, Nat.succ_mul] at hk
    rw [pays] at hr
    rw [(length_of_chunks_getElem? wide l hr).1]
    omega
  · intro k hk
    rw [len, lt_length_chunks_iff] at hk
    rw [pays, flatten_take_chunks, List.length_take, Nat.mul_assoc]
    refine ⟨by omega, ?_⟩
    exact Nat.dvd_mul_left_of_dvd (Nat.dvd_mul_left c w) k

/-! ## All lines -/

theorem LineKind.ofNumber_eq_physical_iff {i : Nat} : ofNumber i = physical ↔ i = 2 := by
  unfold ofNumber
  split
  · simp [*]
  · split <;> simp [*]

theorem LineKind.ofNumber_eq_virtual_iff {i : Nat} : ofNumber i = virtual ↔ i ∈ [4, 6, 8, 10] := by
  have length : logLength = 11 := rfl
  simp only [List.mem_cons, List.not_mem_nil, or_false, ofNumber, length]
  split
  · simp; omega
  · split
    · simp; omega
    · simp; omega

/-- The rows of a log are one block for every line, in the order of the lines, and nothing else.
Line 2 shows the physical dump, with one character for a page, lines 4, 6, 8 and 10 show the virtual
dumps, with two characters for a page, and every other line is text. The width is one at least. -/
theorem rows_blocks (n : Nat) (ls : List Text) :
    ∃ blocks : List (List Text), rows (Width.atLeastOne n) ls = blocks.flatten ∧
      blocks.length = ls.length ∧ ∀ i l, ls[i]? = some l → ∃ b, blocks[i]? = some b ∧
        (i = 2 → DataBlock (max n 1) 1 l b) ∧
        (i ∈ [4, 6, 8, 10] → DataBlock (max n 1) 2 l b) ∧
        (i ∉ [2, 4, 6, 8, 10] → TextBlock (max n 1) l b) := by
  refine ⟨_, rfl, List.length_mapIdx, ?_⟩
  intro i l hl
  refine ⟨lineRows (Width.atLeastOne n) (.ofNumber i) l, ?_, ?_, ?_, ?_⟩
  · rw [List.getElem?_mapIdx, hl]
    rfl
  · intro hi
    rw [LineKind.ofNumber_eq_physical_iff.mpr hi]
    exact dataBlock_dumpRows (Width.atLeastOne n) 1 (by decide) l
  · intro hi
    rw [LineKind.ofNumber_eq_virtual_iff.mpr hi]
    exact dataBlock_dumpRows (Width.atLeastOne n) 2 (by decide) l
  · intro hi
    have text : LineKind.ofNumber i = .text := by
      cases hk : LineKind.ofNumber i with
      | physical =>
        rw [LineKind.ofNumber_eq_physical_iff] at hk
        simp [hk] at hi
      | virtual =>
        rw [LineKind.ofNumber_eq_virtual_iff] at hk
        exact absurd (List.mem_cons_of_mem 2 hk) hi
      | text => rfl
    rw [text]
    exact textBlock_textRows (Width.atLeastOne n) l

/-- At width zero a row holds one page. A physical dump of 4097 frames then has a label of four
digits in its last row, and of three characters of a virtual dump the third stands alone. -/
theorem rows_blocks_at_width_zero :
    let ls := ["abc".toList, [], List.replicate 4097 'K', [], "1u2".toList]
    ∃ blocks : List (List Text), rows (Width.atLeastOne 0) ls = blocks.flatten ∧
      (∃ b, blocks[0]? = some b ∧ b.flatten = "abc".toList ∧
        ∃ r, b.getLast? = some r ∧ r ≠ [] ∧ r.length ≤ 2) ∧
      (∃ b, blocks[2]? = some b ∧ b.length = 4097 ∧ b[4096]? = some "0x1000 K".toList) ∧
      ∃ b, blocks[4]? = some b ∧ b.length = 2 ∧ b[0]? = some "0x000 1u".toList ∧
        b[1]? = some "0x001 2".toList := by
  intro ls
  obtain ⟨blocks, hrows, -, block⟩ := rows_blocks 0 ls
  refine ⟨blocks, hrows, ?_, ?_, ?_⟩
  · obtain ⟨b, hb, -, -, text⟩ := block 0 "abc".toList rfl
    have t := text (by decide)
    exact ⟨b, hb, t.whole, t.last (by decide)⟩
  · obtain ⟨b, hb, physical, -, -⟩ := block 2 (List.replicate 4097 'K') rfl
    have data := physical rfl
    have line : List.replicate 4097 'K' ≠ [] := nofun
    have count : b.length = 4097 := by
      rw [data.count line, List.length_replicate]
      rfl
    refine ⟨b, hb, count, ?_⟩
    rw [data.row line 4096 (by omega), List.extract_eq_take_drop, List.drop_replicate,
      List.take_replicate, List.length_replicate]
    decide
  · obtain ⟨b, hb, -, virtual, -⟩ := block 4 "1u2".toList rfl
    have data := virtual (by decide)
    have line : "1u2".toList ≠ [] := by decide
    have count : b.length = 2 := data.count line
    refine ⟨b, hb, count, ?_, ?_⟩
    · rw [data.row line 0 (by omega)]
      decide
    · rw [data.row line 1 (by omega)]
      decide

end PageAudit
