import PageAudit.Proofs.Dump.Parsing
import PageAudit.Proofs.Text.LineEnds

/-!
# Writing a dump and reading it again

`Dump.lines` lists headers and data in the order of a log, `Dump.parse` finds the data by the
numbers of their lines. The two are inverse to each other: what is read from a log is written
as its first eleven lines, and what is written is read as the dump that it was, exactly if the
data fit on lines (`Dump.Printable`).

* `take_lines_of_parse`: the lines of a dump that was read from a log;
* `parse_unlines_lines_iff`: when a dump comes back from its own lines.
-/
namespace PageAudit.Dump

open Text

/-- Whether the data of a dump can be written on lines of a log. -/
structure Printable (d : Dump) : Prop where
  physical : FitsLine d.physical
  virtuals : ∀ raw ∈ d.virtuals.toList, FitsLine raw

/-- The headers fit on lines, so only the data count. -/
theorem printable_iff {d : Dump} : d.Printable ↔ ∀ l ∈ d.lines, FitsLine l := by
  have headers : FitsLine bannerHeader ∧ FitsLine physicalHeader ∧ FitsLine (virtualHeader 1) ∧
      FitsLine (virtualHeader 2) ∧ FitsLine (virtualHeader 3) ∧ FitsLine (virtualHeader 4) := by
    decide
  obtain ⟨p, a, b, c, e, rfl⟩ := exists_mk d
  have data : (∀ l ∈ lines ⟨p, #v[a, b, c, e]⟩, FitsLine l) ↔
      FitsLine p ∧ ∀ raw ∈ [a, b, c, e], FitsLine raw := by
    simp [lines_mk, headers]
  rw [data]
  constructor
  · intro h
    exact ⟨h.physical, h.virtuals⟩
  · intro h
    exact ⟨h.1, h.2⟩

/-- A log that shows a dump begins with the lines of the dump. -/
theorem lines_ofPlaces {ls : List Text} (h : WellFormed ls) : (ofPlaces ls).lines = ls.take 11 := by
  have header : ∀ n t, headerAt? n = some t → t = ls.getD n [] := by
    intro n t ht
    rw [List.getD_eq_getElem?_getD, h.headers n t ht, Option.getD_some]
  have range : (List.range 11).map (fun n => ls.getD n []) = ls.take 11 := by
    have enough := h.enough
    apply List.ext_getElem
    · simp [enough]
    · intro n hn _
      have hn' : n < 11 := by simpa using hn
      simp [show n < ls.length by omega]
  have banner : bannerHeader = ls.getD 0 [] := header 0 _ rfl
  have physical : physicalHeader = ls.getD 1 [] := header 1 _ rfl
  have one : virtualHeader 1 = ls.getD 3 [] := header 3 _ rfl
  have two : virtualHeader 2 = ls.getD 5 [] := header 5 _ rfl
  have three : virtualHeader 3 = ls.getD 7 [] := header 7 _ rfl
  have four : virtualHeader 4 = ls.getD 9 [] := header 9 _ rfl
  rw [← range, ofPlaces, lines_mk, banner, physical, one, two, three, four]
  rfl

theorem take_lines_of_parse {log : Text} {d : Dump} (h : parse log = .ok d) :
    (Text.lines log).take 11 = d.lines := by
  obtain ⟨w, rfl⟩ := ofLines_eq_ok_iff.mp h
  exact (lines_ofPlaces w).symm

/-- A dump comes back from its own lines, whatever follows them, exactly if its data fit on
lines. -/
theorem parse_unlines_lines_iff {d : Dump} {rest : Text} :
    parse (unlines d.lines ++ rest) = .ok d ↔ d.Printable := by
  rw [printable_iff]
  constructor
  · intro h
    have eleven : d.lines.length = 11 := d.length_lines
    rw [← take_lines_unlines_iff (t := rest), eleven]
    exact take_lines_of_parse h
  · intro h
    rw [parse, lines_unlines_append h]
    exact ofLines_lines_append d _

end PageAudit.Dump
