import PageAudit.Proofs.Dump.Blocks
import PageAudit.Proofs.Memory.Encoding
import PageAudit.Proofs.Text.Numerals
import Mathlib.Data.List.SplitBy

/-!
# A dump read back from its rows

A row does not say which line it is of, but it can be told whether it is of a dump: such a row is
empty or starts with a label, and a row of a header is and does neither, however narrow it is. So the
rows of a dump fall into runs, of headers and of data by turns, and a run of data is the line that
it was cut from, once the labels are taken off. A label ends with its first blank. Nothing of this
depends on the width, and nothing on what the data look like behind their labels.

* `runs_rows`: the runs of the rows of a dump;
* `isUnder_physicalHeader_iff`, `isUnder_virtualHeader_iff`: what is found under a header;
* `ofRows?_rows`: the dump read back;
* `rows_determine_dump`: dumps with the same rows, at whatever widths, are the same.
-/
namespace PageAudit

open Text

/-! ## Rows of data and rows of headers -/

/-- Whether a row is of a dump line: it is that of an empty line or starts with a label. -/
def isDataRow (r : Text) : Bool := r.isEmpty || r.head? = some '0'

section
variable {w : Width} {l r : Text}

theorem isDataRow_of_mem_dumpRows {c : Nat} (pos : 0 < c) (h : r ∈ dumpRows w c pos l) :
    isDataRow r = true := by
  unfold dumpRows at h
  split at h
  · rw [List.mem_singleton.mp h]
    rfl
  · obtain ⟨k, _, rfl⟩ := List.mem_mapIdx.mp h
    rfl

theorem dumpRows_ne_nil {c : Nat} (pos : 0 < c) : dumpRows w c pos l ≠ [] := by
  unfold dumpRows
  split
  · simp
  next hl =>
  rw [chunks, if_neg hl]
  simp

theorem ne_nil_of_mem_textRows (hl : l ≠ []) (h : r ∈ textRows w l) : r ≠ [] := by
  unfold textRows at h
  split at h
  · rwa [List.mem_singleton.mp h]
  · obtain ⟨k, hk⟩ := List.mem_iff_getElem?.mp h
    exact (length_of_chunks_getElem? _ l hk).2

/-- The rows of a line without zeros do not look like data. -/
theorem isDataRow_of_mem_textRows (hl : l ≠ []) (zero : '0' ∉ l) (h : r ∈ textRows w l) :
    isDataRow r = false := by
  obtain ⟨c, r, rfl⟩ := List.exists_cons_of_ne_nil (ne_nil_of_mem_textRows hl h)
  have hc : c ∈ l := by
    rw [← (textBlock_textRows w l).whole]
    exact List.mem_flatten.mpr ⟨_, h, List.mem_cons_self⟩
  have : c ≠ '0' := fun hzero => zero (hzero ▸ hc)
  simp [isDataRow, this]

theorem textRows_ne_nil (hl : l ≠ []) : textRows w l ≠ [] := by
  intro none
  have whole := (textBlock_textRows w l).whole
  rw [none] at whole
  exact hl whole.symm

end

/-! ## Runs -/

/-- The rows in runs, of data and of other rows by turns. -/
def runs (rs : List Text) : List (List Text) :=
  rs.splitBy fun r s => isDataRow r == isDataRow s

/-- Rows of a header, or of several, and the rows of the data under them. -/
structure Section where
  header : List Text
  data : List Text

namespace Section

/-- All the rows of a section. -/
def rows (s : Section) : List Text := s.header ++ s.data

/-- Whether the two parts of a section can be told apart. -/
structure Clear (s : Section) : Prop where
  header_ne_nil : s.header ≠ []
  data_ne_nil : s.data ≠ []
  header_rows : ∀ r ∈ s.header, isDataRow r = false
  data_rows : ∀ r ∈ s.data, isDataRow r = true

theorem runs_alike {rs : List Text} {b : Bool} (ne : rs ≠ []) (alike : ∀ r ∈ rs, isDataRow r = b) :
    runs rs = [rs] := by
  apply List.splitBy_of_isChain ne
  apply List.Pairwise.isChain
  apply List.pairwise_of_forall_mem_list
  intro r hr s hs
  rw [alike r hr, alike s hs, beq_self_eq_true]

/-- A run ends where rows of the other kind begin. -/
theorem runs_append {rs ts : List Text} {b : Bool} (first : ∀ r ∈ rs, isDataRow r = b)
    (next : ∀ t, ts.head? = some t → isDataRow t = !b) : runs (rs ++ ts) = runs rs ++ runs ts := by
  apply List.splitBy_append
  intro r hr t ht
  rw [first r (List.mem_of_getLast? hr), next t ht]
  cases b <;> rfl

/-- Clear sections one after the other have two runs each. -/
theorem runs_flatMap_rows {ss : List Section} (h : ∀ s ∈ ss, s.Clear) :
    runs (ss.flatMap rows) = ss.flatMap fun s => [s.header, s.data] := by
  induction ss with
  | nil => rfl
  | cons s ss ih =>
    obtain ⟨hs, hss⟩ := List.forall_mem_cons.mp h
    -- the next section starts with a header, so the data of this one end there
    have next : ∀ t, (ss.flatMap rows).head? = some t → isDataRow t = !true := by
      intro t ht
      cases ss with
      | nil => cases ht
      | cons s' ss =>
        have hs' := hss s' List.mem_cons_self
        rw [List.flatMap_cons, rows, List.append_assoc,
          List.head?_append_of_ne_nil _ hs'.header_ne_nil] at ht
        exact hs'.header_rows t (List.mem_of_head? ht)
    have first : ∀ t, (s.data ++ ss.flatMap rows).head? = some t → isDataRow t = !false := by
      intro t ht
      rw [List.head?_append_of_ne_nil _ hs.data_ne_nil] at ht
      exact hs.data_rows t (List.mem_of_head? ht)
    rw [List.flatMap_cons, List.flatMap_cons, rows, List.append_assoc,
      runs_append hs.header_rows first, runs_append hs.data_rows next,
      runs_alike hs.header_ne_nil hs.header_rows, runs_alike hs.data_ne_nil hs.data_rows, ih hss]
    rfl

/-- Of neighbouring runs the first is a header only at the beginning of a section. -/
theorem exists_neighbours_iff {ss : List Section} (h : ∀ s ∈ ss, s.Clear) {head b : List Text}
    (text : ∀ r ∈ head, isDataRow r = false) :
    (∃ before behind, (ss.flatMap fun s => [s.header, s.data]) = before ++ head :: b :: behind) ↔
      ⟨head, b⟩ ∈ ss := by
  constructor
  · intro neighbours
    obtain ⟨before, behind, split⟩ := neighbours
    induction ss generalizing before with
    | nil => simp at split
    | cons s ss ih =>
      obtain ⟨hs, hss⟩ := List.forall_mem_cons.mp h
      match before, split with
      | [], split =>
        obtain ⟨rfl, rfl, -⟩ := by simpa using split
        exact List.mem_cons_self
      | [_], split =>
        obtain ⟨-, rfl, -⟩ := by simpa using split
        obtain ⟨r, hr⟩ := List.exists_mem_of_ne_nil _ hs.data_ne_nil
        have := text r hr
        rw [hs.data_rows r hr] at this
        cases this
      | _ :: _ :: before, split =>
        obtain ⟨-, -, split⟩ := by simpa using split
        exact List.mem_cons_of_mem s (ih hss before split)
  · intro hs
    obtain ⟨before, behind, rfl⟩ := List.append_of_mem hs
    exact ⟨_, _, by rw [List.flatMap_append, List.flatMap_cons]; rfl⟩

end Section

/-! ## The rows of a dump -/

/-- Whether the rows `b` are what one finds under a header: the run behind a run of other rows, the
last of which are the header, in one piece or in several. -/
def IsUnder (header : Text) (rs b : List Text) : Prop :=
  ∃ head, (∀ r ∈ head, isDataRow r = false) ∧ header <:+ head.flatten ∧
    ∃ before behind, runs rs = before ++ head :: b :: behind

namespace Dump

/-- The sections that the rows of a dump consist of. -/
def sections (d : Dump) (w : Width) : List Section :=
  ⟨textRows w bannerHeader ++ textRows w physicalHeader, dumpRows w 1 Nat.one_pos d.physical⟩ ::
    d.virtualTexts.map fun (pid, raw) =>
      ⟨textRows w (virtualHeader pid), dumpRows w 2 Nat.two_pos raw⟩

variable (d : Dump) (w : Width)

theorem rows_eq_sections : d.rows w = (d.sections w).flatMap Section.rows := by
  obtain ⟨p, a, b, c, e, rfl⟩ := exists_mk d
  simp [rows, PageAudit.rows, lines_mk, sections, virtualTexts, processIds, Section.rows,
    List.mapIdx_cons, lineRows, LineKind.ofNumber, logLength]

/-- No header holds a zero. -/
theorem zero_not_mem_virtualHeader {p : UInt8} (hp : p ∈ processIds) : '0' ∉ virtualHeader p := by
  revert p
  rw [forall_mem_processIds]
  decide

theorem clear_of_mem_sections : ∀ s ∈ d.sections w, s.Clear := by
  refine List.forall_mem_cons.mpr ⟨?_, ?_⟩
  · have banner : bannerHeader ≠ [] ∧ '0' ∉ bannerHeader := by decide
    have physical : physicalHeader ≠ [] ∧ '0' ∉ physicalHeader := by decide
    refine ⟨?_, dumpRows_ne_nil (by decide), ?_, fun r => isDataRow_of_mem_dumpRows (by decide)⟩
    · exact List.append_ne_nil_of_left_ne_nil (textRows_ne_nil banner.1) _
    · intro r hr
      rcases List.mem_append.mp hr with hr | hr
      · exact isDataRow_of_mem_textRows banner.1 banner.2 hr
      · exact isDataRow_of_mem_textRows physical.1 physical.2 hr
  · intro s hs
    obtain ⟨⟨p, raw⟩, hx, rfl⟩ := List.mem_map.mp hs
    have zero := zero_not_mem_virtualHeader (mem_virtualTexts_iff.mp hx).1
    have header : virtualHeader p ≠ [] := List.append_ne_nil_of_left_ne_nil (by decide) _
    exact ⟨textRows_ne_nil header, dumpRows_ne_nil (by decide),
      fun r => isDataRow_of_mem_textRows header zero,
      fun r => isDataRow_of_mem_dumpRows (by decide)⟩

theorem runs_rows : runs (d.rows w) = (d.sections w).flatMap fun s => [s.header, s.data] := by
  rw [rows_eq_sections, Section.runs_flatMap_rows (d.clear_of_mem_sections w)]

theorem isUnder_iff_exists_section {header : Text} {b : List Text} :
    IsUnder header (d.rows w) b ↔ ∃ s ∈ d.sections w, header <:+ s.header.flatten ∧ s.data = b := by
  have clear := d.clear_of_mem_sections w
  unfold IsUnder
  rw [runs_rows]
  constructor
  · intro under
    obtain ⟨head, text, suffix, neighbours⟩ := under
    exact ⟨⟨head, b⟩, (Section.exists_neighbours_iff clear text).mp neighbours, suffix, rfl⟩
  · intro found
    obtain ⟨s, hs, suffix, rfl⟩ := found
    have text := (clear s hs).header_rows
    exact ⟨s.header, text, suffix, (Section.exists_neighbours_iff clear text).mpr hs⟩

theorem flatten_physicalSection :
    (textRows w bannerHeader ++ textRows w physicalHeader).flatten =
      bannerHeader ++ physicalHeader := by
  rw [List.flatten_append, (textBlock_textRows w _).whole, (textBlock_textRows w _).whole]

/-- The physical dump is found under its header, at every width, and nothing else is. -/
theorem isUnder_physicalHeader_iff {b : List Text} :
    IsUnder physicalHeader (d.rows w) b ↔ b = dumpRows w 1 (by decide) d.physical := by
  rw [isUnder_iff_exists_section]
  constructor
  · intro found
    obtain ⟨s, hs, suffix, rfl⟩ := found
    rcases List.mem_cons.mp hs with rfl | hs
    · rfl
    · obtain ⟨⟨q, raw⟩, hx, rfl⟩ := List.mem_map.mp hs
      have other : ∀ q ∈ processIds, ¬ physicalHeader <:+ virtualHeader q :=
        forall_mem_processIds.mpr (by decide)
      rw [(textBlock_textRows w _).whole] at suffix
      exact absurd suffix (other q (mem_virtualTexts_iff.mp hx).1)
  · intro hb
    refine ⟨_, List.mem_cons_self, ?_, hb.symm⟩
    rw [flatten_physicalSection]
    exact List.suffix_append _ _

/-- So is the virtual dump of each process under its own header. -/
theorem isUnder_virtualHeader_iff {p : UInt8} (hp : p ∈ processIds) {b : List Text} :
    IsUnder (virtualHeader p) (d.rows w) b ↔ b = dumpRows w 2 (by decide) (d.virtualOf p) := by
  rw [isUnder_iff_exists_section]
  constructor
  · intro found
    obtain ⟨s, hs, suffix, rfl⟩ := found
    rcases List.mem_cons.mp hs with rfl | hs
    · have other : ∀ p ∈ processIds, ¬ virtualHeader p <:+ bannerHeader ++ physicalHeader :=
        forall_mem_processIds.mpr (by decide)
      rw [flatten_physicalSection] at suffix
      exact absurd suffix (other p hp)
    · obtain ⟨⟨q, raw⟩, hx, rfl⟩ := List.mem_map.mp hs
      obtain ⟨hq, rfl⟩ : q ∈ processIds ∧ raw = d.virtualOf q := mem_virtualTexts_iff.mp hx
      have own : ∀ p ∈ processIds, ∀ q ∈ processIds,
          virtualHeader p <:+ virtualHeader q → p = q := by
        simp only [forall_mem_processIds]
        decide
      rw [(textBlock_textRows w _).whole] at suffix
      rw [own p hp q hq suffix]
  · intro hb
    have hx : (p, d.virtualOf p) ∈ d.virtualTexts := mem_virtualTexts_iff.mpr ⟨hp, rfl⟩
    exact ⟨_, List.mem_cons_of_mem _ (List.mem_map_of_mem hx),
      ⟨[], (textBlock_textRows w _).whole.symm⟩, hb.symm⟩

end Dump

/-! ## Reading a dump back -/

/-- What a row holds behind its label, which ends with the first blank. -/
def behindLabel (r : Text) : Text := (r.dropWhile (· ≠ ' ')).drop 1

theorem behindLabel_append (n : Nat) (r : Text) : behindLabel (pageLabel n ++ r) = r := by
  have unbroken : ∀ c ∈ "0x".toList ++ hex3 n, decide (c ≠ ' ') = true := by
    intro c hc
    rw [decide_eq_true_eq]
    rintro rfl
    rcases List.mem_append.mp hc with hc | hc
    · exact absurd hc (by decide)
    · cases isAlphanum_of_mem_hex3 hc
  rw [behindLabel, pageLabel, List.append_assoc, List.dropWhile_append_of_pos unbroken]
  rfl

/-- The line that a run of data was cut from. -/
def lineOfRun (b : List Text) : Text := b.flatMap behindLabel

theorem lineOfRun_dumpRows (w : Width) (c : Nat) (pos : 0 < c) (l : Text) :
    lineOfRun (dumpRows w c pos l) = l := by
  unfold lineOfRun dumpRows
  split
  · next hl =>
    rw [hl]
    rfl
  · have pieces : ∀ bs : List Text,
        (bs.mapIdx fun k r => pageLabel (k * w) ++ r).map behindLabel = bs := by
      intro bs
      apply List.ext_getElem?
      intro k
      simp [behindLabel_append, Function.comp_def]
    rw [List.flatMap_def, pieces, flatten_chunks]

/-- The dump that rows show: every other run of them is of data. -/
def Dump.ofRows? (rs : List Text) : Option Dump :=
  match runs rs with
  | [_, p, _, a, _, b, _, c, _, e] =>
    some ⟨lineOfRun p, #v[lineOfRun a, lineOfRun b, lineOfRun c, lineOfRun e]⟩
  | _ => none

theorem Dump.ofRows?_rows (d : Dump) (w : Width) : ofRows? (d.rows w) = some d := by
  obtain ⟨p, a, b, c, e, rfl⟩ := exists_mk d
  rw [ofRows?, runs_rows]
  simp [sections, virtualTexts, processIds, lineOfRun_dumpRows]

/-- The rows of a dump determine the dump: it can be read back from them without the width, so no
two dumps have the same rows at any two widths. The data of the dump are arbitrary. -/
theorem rows_determine_dump :
    (∀ (n : Nat) (d : Dump), Dump.ofRows? (d.rows (.atLeastOne n)) = some d) ∧
    ∀ (n₁ n₂ : Nat) (d₁ d₂ : Dump),
      d₁.rows (.atLeastOne n₁) = d₂.rows (.atLeastOne n₂) → d₁ = d₂ := by
  refine ⟨fun n d => d.ofRows?_rows _, ?_⟩
  intro n₁ n₂ d₁ d₂ same
  have read := d₁.ofRows?_rows (.atLeastOne n₁)
  rw [same, Dump.ofRows?_rows] at read
  exact (Option.some.inj read).symm

/-- Data that look like a header, a label and an empty line. What is read from the rows of width 100
has the same rows at width 200, which are long enough for all lines too, so it is the same dump. -/
theorem rows_determine_dump_of_lookalikes :
    let d : Dump := ⟨"VIRTUAL MEMORY FOR PROCESS 2".toList,
      #v["0x000 \n".toList, [], "0".toList, " ".toList]⟩
    ∃ e, Dump.ofRows? (d.rows (.atLeastOne 100)) = some e ∧
      e.rows (.atLeastOne 200) = d.rows (.atLeastOne 100) ∧ e = d := by
  intro d
  obtain ⟨read, unique⟩ := rows_determine_dump
  have same : d.rows (.atLeastOne 200) = d.rows (.atLeastOne 100) := by decide +kernel
  exact ⟨d, read 100 d, same, unique 200 100 d d same⟩

end PageAudit
