import PageAudit.Proofs.Dump.Runs
import PageAudit.Proofs.Audit.Endings
import Mathlib.Tactic.Ring

/-!
# The page of a violation in the rows of the dump

Checks count pages, rows count characters, and a violation names its page by number alone. The rows
that come with it show that page: under the header of the process, in the row whose label is the last
one that is not above the number, and as many places behind the label as the number exceeds it.

* `dumpRows_page`: where the rows of a line have a page;
* `Failing.place`: what the dump holds at the place of a violation;
* `violation_shown`: what the report shows there.
-/
namespace PageAudit

open Text

/-! ## The place of a page -/

section
variable {w : Width} {c : Nat} (pos : 0 < c) {l : Text}

theorem dumpRows_getElem? (hl : l ≠ []) (k : Nat) :
    (dumpRows w c pos l)[k]? = if k * (w * c) < l.length then
      some (pageLabel (k * w) ++ (l.drop (k * (w * c))).take (w * c)) else none := by
  rw [dumpRows, if_neg hl, List.getElem?_mapIdx, chunks_getElem?]
  split <;> rfl

theorem length_pageLabel {page : Nat} (h : page < 0x1000) : (pageLabel page).length = 6 := by
  have digits := length_hex3 h
  simp only [pageLabel, List.length_append, digits]
  rfl

/-- The characters of page `i` stand in row `i / w`, as many pages behind the label as the page is
behind the first one of the row. -/
theorem dumpRows_page {i : Nat} (there : c * i < l.length) (small : i < 0x1000) :
    ∃ row, (dumpRows w c pos l)[i / w]? = some row ∧ row.take 6 = pageLabel (w * (i / w)) ∧
      ∀ j < c, row[6 + c * (i % w) + j]? = l[c * i + j]? := by
  have hl : l ≠ [] := by
    rintro rfl
    simp at there
  generalize hk : i / w.val = k
  generalize hm : i % w.val = m
  have page : i = w * k + m := by rw [← hk, ← hm, Nat.div_add_mod]
  have inside : m < w := hm ▸ Nat.mod_lt i w.2
  have label : (pageLabel (w * k)).length = 6 := length_pageLabel (by omega)
  have start : k * (w * c) < l.length := by
    calc k * (w * c) = c * (w * k) := by ring
      _ ≤ c * i := Nat.mul_le_mul_left c (by omega)
      _ < l.length := there
  refine ⟨_, (dumpRows_getElem? pos hl k).trans (if_pos start), ?_, ?_⟩
  · rw [Nat.mul_comm k, List.take_append_of_le_length (by omega), List.take_of_length_le (by omega)]
  · intro j hj
    have column : c * m + j < w * c := by
      calc c * m + j < c * m + c := by omega
        _ = c * (m + 1) := by ring
        _ ≤ c * w := Nat.mul_le_mul_left c inside
        _ = w * c := Nat.mul_comm c w
    have place : k * (w * c) + (c * m + j) = c * i + j := by
      rw [page]
      ring
    rw [Nat.mul_comm k w.val, Nat.add_assoc, ← label, List.getElem?_append_right (by omega),
      Nat.add_sub_cancel_left, List.getElem?_take_of_lt column, List.getElem?_drop, place]

end

/-! ## What a violation is about -/

/-- A violation with a place has seen what the dump holds there. -/
theorem Failing.place {g : Stage} {d : Dump} {v : Violation} (h : Failing g d v) {i : Nat}
    (hi : v.index = some i) :
    (∃ p ∈ processIds, ∃ e, v.pid = some p ∧ Entry.at? (d.virtualOf p) i = some e ∧
      v.owner = some e.owner ∧ v.user = some e.user) ∨
    (v.pid = none ∧ d.physical[i]? = some '.') := by
  obtain ⟨t, -, hv⟩ := h
  obtain ⟨r, about⟩ := hv.about
  cases about with
  | @page p raw _ _ text entry _ pid index owner user =>
    obtain ⟨hp, rfl⟩ : p ∈ processIds ∧ raw = d.virtualOf p := Dump.mem_virtualTexts_iff.mp text
    obtain rfl := Option.some.inj (index.symm.trans hi)
    exact .inl ⟨_, hp, _, pid, entry, owner, user⟩
  | frame free _ pid index =>
    obtain rfl := Option.some.inj (index.symm.trans hi)
    exact .inr ⟨pid, free⟩
  | nowhere _ _ index => cases index.symm.trans hi

/-! ## What the report shows -/

/-- Whether a row is the one for page `i` of the data under a header, in rows of `w` pages: it is the
row of that number under the header, and its label is the number of its first page. -/
def IsRowOf (w i : Nat) (header : Text) (shown : List Text) (row : Text) : Prop :=
  ∃ block, (∀ b, IsUnder header shown b ↔ b = block) ∧ block[i / w]? = some row ∧
    row.take 6 = "0x".toList ++ (Nat.toDigits 16 (w * (i / w))).leftpad 3 '0' ++ " ".toList

namespace Dump

variable {d : Dump} (sized : d.WellSized) (w : Width)
include sized

theorem exists_row_of_page {p : UInt8} (hp : p ∈ processIds) {i : Nat} {e : Entry}
    (he : Entry.at? (d.virtualOf p) i = some e) :
    ∃ row flag, IsRowOf w i (virtualHeader p) (d.rows w) row ∧
      row[6 + 2 * (i % w)]? = some e.owner.tag ∧ row[6 + 2 * (i % w) + 1]? = some flag ∧
      (flag = 'u' ↔ e.user = true) := by
  obtain ⟨tag, flag, ht, hf, rfl⟩ := Entry.at?_eq_some_iff.mp he
  have len : (d.virtualOf p).length = 1536 := length_virtualOf sized hp
  have there : 2 * i < (d.virtualOf p).length := (List.getElem?_eq_some_iff.mp ht).1
  obtain ⟨row, hrow, label, chars⟩ := dumpRows_page (w := w) (by decide) there (by omega)
  refine ⟨row, flag, ⟨_, fun b => d.isUnder_virtualHeader_iff w hp, hrow, label⟩, ?_, ?_, ?_⟩
  · have owner : (Entry.ofPair (tag, flag)).owner.tag = tag := Owner.tag_ofTag .virtual tag
    rw [owner, ← ht]
    exact chars 0 (by decide)
  · rw [← hf]
    exact chars 1 (by decide)
  · exact Entry.ofPair_user_eq_true_iff.symm

theorem exists_row_of_frame {i : Nat} {c : Char} (hc : d.physical[i]? = some c) :
    ∃ row, IsRowOf w i physicalHeader (d.rows w) row ∧ row[6 + i % w]? = some c := by
  have len : d.physical.length = 512 := sized.1
  have here : i < d.physical.length := (List.getElem?_eq_some_iff.mp hc).1
  have there : 1 * i < d.physical.length := by omega
  obtain ⟨row, hrow, label, chars⟩ := dumpRows_page (w := w) (by decide) there (by omega)
  refine ⟨row, ⟨_, fun b => d.isUnder_physicalHeader_iff w, hrow, label⟩, ?_⟩
  rw [← hc]
  simpa using chars 0 (by decide)

end Dump

namespace Auditor

variable {a : Auditor} {g : Stage}

/-- A violation comes from a dump that has the right lengths and fails with it. -/
theorem failing_of_violation {d : Dump} {v : Violation}
    (h : (a.auditDump g d).verdict.violation? = some v) : d.WellSized ∧ Failing g d v := by
  cases hd : d.decode with
  | error f =>
    rw [verdict_of_fault hd] at h
    cases h
  | ok image =>
    rw [verdict_of_decode hd] at h
    exact ⟨Dump.exists_decode_iff.mp ⟨image, hd⟩, ((firstViolation_finds hd g).first v h).1⟩

/-- A log with a violation is audited as the dump that is read from it. -/
theorem exists_dump_of_violation {log : Text} {v : Violation}
    (h : (a.auditLog g log).verdict.violation? = some v) :
    ∃ d, a.auditLog g log = a.auditDump g d := by
  cases hd : Dump.parse log with
  | error f =>
    simp only [auditLog, hd] at h
    cases h
  | ok d => exact ⟨d, auditLog_of_parse hd⟩

/-- The report on a violation shows the rows of the dump, and nothing above them looks like the line
that announces them. -/
theorem diagnostics_of_violation {d : Dump} {v : Violation}
    (h : (a.auditDump g d).verdict.violation? = some v) :
    ∃ above, (a.auditDump g d).diagnostics = above ++ "memory dump:".toList :: d.rows a.width ∧
      "memory dump:".toList ∉ above := by
  have failed : (a.auditDump g d).verdict.passed = false := by
    rw [← Bool.not_eq_true, Verdict.passed_eq_true_iff, h]
    rintro ⟨-, ⟨⟩⟩
  obtain ⟨above, first, diagnostics⟩ := Report.exists_above failed
  refine ⟨above, ?_, first⟩
  rw [← rows_auditDump (g := g)]
  exact diagnostics _

/-- The page or frame of a violation is found in the rows of the report on a dump or a log. If it is
a page of a process, the row of that page under the header of the process has, at the place of the
page, the tag of the owner that was seen and a flag, which is the user flag exactly if user code was
seen to have access. If it is a frame, the row of that frame under the header of the physical dump has
a dot at its place. No other rows stand under these headers. -/
theorem violation_shown (a : Auditor) (g : Stage) {r : Report}
    (source : (∃ d, r = a.auditDump g d) ∨ ∃ log, r = a.auditLog g log) {v : Violation} {i : Nat}
    (hv : r.verdict.violation? = some v) (hi : v.index = some i) :
    ∃ above shown, r.diagnostics = above ++ "memory dump:".toList :: shown ∧
      "memory dump:".toList ∉ above ∧
      (∀ p, v.pid = some p → ∃ row tag flag, IsRowOf a.width i (virtualHeader p) shown row ∧
        row[6 + 2 * (i % a.width)]? = some tag ∧ v.owner.map Owner.tag = some tag ∧
        row[6 + 2 * (i % a.width) + 1]? = some flag ∧ (flag = 'u' ↔ v.user = some true)) ∧
      (v.pid = none → ∃ row, IsRowOf a.width i physicalHeader shown row ∧
        row[6 + i % a.width]? = some '.') := by
  obtain ⟨d, rfl⟩ : ∃ d, r = a.auditDump g d := by
    rcases source with dump | ⟨log, rfl⟩
    · exact dump
    · exact exists_dump_of_violation hv
  obtain ⟨sized, failing⟩ := failing_of_violation hv
  obtain ⟨above, diagnostics, first⟩ := diagnostics_of_violation hv
  refine ⟨above, _, diagnostics, first, ?_, ?_⟩
  · intro p hp
    rcases failing.place hi with ⟨q, hq, e, hpid, he, howner, huser⟩ | ⟨hpid, -⟩
    · obtain rfl : q = p := Option.some.inj (hpid.symm.trans hp)
      obtain ⟨row, flag, isRow, tag, hflag, access⟩ := d.exists_row_of_page sized a.width hq he
      refine ⟨row, _, flag, isRow, tag, ?_, hflag, ?_⟩
      · rw [howner, Option.map_some]
      · rw [huser, Option.some.injEq, access]
    · rw [hpid] at hp
      cases hp
  · intro hnone
    rcases failing.place hi with ⟨q, -, e, hpid, -⟩ | ⟨-, hfree⟩
    · rw [hpid] at hnone
      cases hnone
    · exact d.exists_row_of_frame sized a.width hfree

/-- Of pages that all have the tag and the flag `x`, page 184 of process 1 is reported, which should
be the page of the console. In rows of 60 pages it is the fifth page of the fourth row. -/
theorem violation_shown_on_console :
    let d : Dump := ⟨List.replicate 512 'K', Vector.replicate 4 (List.replicate 1536 'x')⟩
    let r := Auditor.auditDump ⟨.atLeastOne 60⟩ .one d
    r.verdict.violation? = some (.atPage .kernelIsolation 1 184 ⟨.other 'x', false⟩ .console) ∧
    ∃ above shown row, r.diagnostics = above ++ "memory dump:".toList :: shown ∧
      IsRowOf 60 184 (virtualHeader 1) shown row ∧ row.take 6 = "0x0b4 ".toList ∧
      row[14]? = some 'x' ∧ row[15]? ≠ some 'u' := by
  intro d r
  have violation : r.verdict.violation? =
      some (.atPage .kernelIsolation 1 184 ⟨.other 'x', false⟩ .console) := by decide +kernel
  obtain ⟨above, shown, diagnostics, -, page, -⟩ :=
    violation_shown ⟨.atLeastOne 60⟩ .one (.inl ⟨d, rfl⟩) violation rfl
  obtain ⟨row, tag, flag, isRow, htag, howner, hflag, access⟩ := page 1 rfl
  cases howner
  refine ⟨violation, above, shown, row, diagnostics, isRow, ?_, htag, ?_⟩
  · obtain ⟨_, -, -, label⟩ := isRow
    rw [label]
    decide
  · intro user
    cases hflag.symm.trans user
    cases access.mp rfl

end Auditor

end PageAudit
