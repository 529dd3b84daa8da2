import PageAudit.Guarded.Audit
import PageAudit.Proofs.Audit.Endings
import PageAudit.Proofs.Dump.Blocks
import PageAudit.Proofs.Guarded.Checks

/-!
# Audits without a lapse

The width is one at least, so no row is empty. A width below 2^63 can be doubled, and the number of the
first page of a row is less than the length of its line, so a label is a size if the line fits into the
memory of a machine with such sizes. From 2^63 on no line of text can be shown.

* `rows_eq_ok`, `rows_eq_error`: showing lines;
* `auditLog_eq`: an audit lapses only where it makes rows;
* `auditDump_eq_ok`, `auditLog_eq_ok_iff`: which audits do not lapse;
* `audit_without_lapse`: whatever widths below 2^63 were asked for, no audit lapses.
-/
namespace PageAudit.Guarded

open Steps

/-! ## Rows -/

section
variable {w : Width} {l : Text}

theorem dumpRows_eq_ok {perPage : Nat} (pos : 0 < perPage) (wide : w * perPage < 2 ^ 64)
    (fits : l.length ≤ 2 ^ 64) :
    dumpRows w perPage l = .ok (PageAudit.dumpRows w perPage pos l) := by
  unfold dumpRows PageAudit.dumpRows
  split
  · rfl
  · have labels : ∀ x ∈ (chunks (w * perPage) (Nat.mul_pos w.2 pos) l).zipIdx,
        labelled w x = .ok (pageLabel (x.2 * w) ++ x.1) := by
      intro x hx
      -- a row starts before the line ends
      have starts := (lt_length_chunks_iff _ l).mp (List.snd_lt_of_mem_zipIdx hx)
      have page : x.2 * w ≤ x.2 * (w * perPage) :=
        Nat.mul_le_mul_left x.2 (Nat.le_mul_of_pos_right w pos)
      rw [labelled, size_eq_ok (by omega), ok_bind]
      rfl
    rw [size_eq_ok wide, ok_bind, pieces_eq_ok (Nat.mul_pos w.2 pos), ok_bind, mapM_eq_ok labels,
      List.mapIdx_eq_zipIdx_map]

theorem textRows_eq_ok (wide : w.1 < 2 ^ 63) : textRows w l = .ok (PageAudit.textRows w l) := by
  have doubled : 2 * w.1 < 2 ^ 64 := by omega
  rw [textRows, size_eq_ok doubled, ok_bind, PageAudit.textRows]
  split
  · rfl
  · exact pieces_eq_ok _ l

theorem lineRows_eq_ok {n : Nat} (wide : w.1 < 2 ^ 63) (fits : l.length ≤ 2 ^ 64) :
    lineRows w (l, n) = .ok (PageAudit.lineRows w (.ofNumber n) l) := by
  unfold lineRows PageAudit.lineRows
  dsimp only
  cases LineKind.ofNumber n with
  | physical => exact dumpRows_eq_ok _ (by omega) fits
  | virtual => exact dumpRows_eq_ok _ (by omega) fits
  | text => exact textRows_eq_ok wide

theorem rows_eq_ok {ls : List Text} (wide : w.1 < 2 ^ 63) (fits : ∀ l ∈ ls, l.length ≤ 2 ^ 64) :
    rows w ls = .ok (PageAudit.rows w ls) := by
  have width : max w.1 1 = w := Nat.max_eq_left w.2
  have blocks := mapM_eq_ok (l := ls.zipIdx) (f := lineRows w)
    (g := fun x => PageAudit.lineRows w (.ofNumber x.2) x.1) fun x hx =>
      lineRows_eq_ok wide (fits x.1 (List.fst_mem_of_mem_zipIdx hx))
  rw [rows, width, blocks, ok_bind, PageAudit.rows, List.mapIdx_eq_zipIdx_map]
  rfl

/-- The first line of a log is text, for whose rows the width is doubled. -/
theorem rows_eq_error {ls : List Text} (wide : 2 ^ 63 ≤ w.1) (some : ls ≠ []) :
    rows w ls = .error .range := by
  obtain ⟨l, ls, rfl⟩ := List.exists_cons_of_ne_nil some
  have width : max w.1 1 = w := Nat.max_eq_left w.2
  have doubled : size (2 * w.1) = .error .range :=
    if_neg (show ¬ 2 * w.1 < 2 ^ 64 by omega)
  have first : lineRows w (l, 0) = .error .range := by
    rw [lineRows, show LineKind.ofNumber (l, 0).2 = .text from rfl, textRows, doubled]
    rfl
  rw [rows, width, List.zipIdx_cons, List.mapM_cons, first]
  rfl

/-- A width that cannot be doubled is one too many. -/
example : rows (2 ^ 63) ["Starting".toList] = .error .range := rfl

end

/-! ## Audits -/

/-- The report, with the rows of these lines made step by step where it has to be shown. -/
def reportWithRows (r : Report) (w : Nat) (ls : List Text) : Except Lapse Report :=
  if r.verdict.passed then .ok r else do return { r with rows := ← rows w ls }

theorem auditDump_eq (a : Auditor) (stage : Stage) (d : Dump) :
    auditDump a stage d = reportWithRows (a.auditDump stage d) a.width d.lines := by
  rw [auditDump, decode_eq_ok, ok_bind, lines_eq_ok, Auditor.auditDump]
  cases decoded : d.decode with
  | error f => rfl
  | ok image =>
    have count : image.spaces.length = 4 := by
      rw [← List.length_map (·.pid), Dump.pids_of_decode decoded]
      rfl
    have checks := schedule_eq_ok (by omega : image.spaces.length < 2 ^ 64) stage
    simp only [warnings_eq_ok, checks, ok_bind, traceOf, Auditor.traceImage]
    cases Inspection.firstViolation (stage.schedule image) <;> rfl

/-- An audit can lapse only where it makes rows. Its verdict and its records are made by then, and are
those of the plain audit. -/
theorem auditLog_eq (a : Auditor) (stage : Stage) (log : Text) :
    auditLog a stage log =
      reportWithRows (a.auditLog stage log) a.width (shownLines (Text.lines log)) := by
  rw [auditLog, ofLines_eq_ok, ok_bind, Auditor.auditLog, shownLines, Dump.parse]
  cases read : Dump.ofLines (Text.lines log) with
  | error f => rfl
  | ok d =>
    have shown : (Text.lines log).take 11 = d.lines := Dump.take_lines_of_parse read
    simp only [shown]
    exact auditDump_eq a stage d

section
variable {r : Report} {w : Width} {ls : List Text}

theorem reportWithRows_eq_ok (wide : w.1 < 2 ^ 63) (fits : ∀ l ∈ ls, l.length ≤ 2 ^ 64)
    (shown : r.rows = PageAudit.rows w ls) : reportWithRows r w ls = .ok r := by
  rw [reportWithRows, rows_eq_ok wide fits, ← shown]
  split <;> rfl

theorem reportWithRows_eq_error (wide : 2 ^ 63 ≤ w.1) (some : ls ≠ []) :
    reportWithRows r w ls = if r.verdict.passed then .ok r else .error .range := by
  rw [reportWithRows, rows_eq_error wide some]
  rfl

end

section
variable {a : Auditor} {log : Text}

theorem auditDump_eq_ok {d : Dump} (stage : Stage) (wide : a.width.1 < 2 ^ 63)
    (fits : ∀ l ∈ d.lines, l.length ≤ 2 ^ 64) :
    auditDump a stage d = .ok (a.auditDump stage d) := by
  rw [auditDump_eq]
  exact reportWithRows_eq_ok wide fits (Auditor.rows_auditDump d)

/-- The audit of a log comes to its report exactly if the width can be doubled, or there is no need to:
nothing is shown of a log that passes, and nothing there is to show of one without lines. -/
theorem auditLog_eq_ok_iff (stage : Stage) (fits : log.length < 2 ^ 64) :
    auditLog a stage log = .ok (a.auditLog stage log) ↔
      a.width.1 < 2 ^ 63 ∨ (a.auditLog stage log).verdict.passed = true ∨ Text.lines log = [] := by
  have shown := Auditor.rows_auditLog (a := a) (g := stage) (Text.breaksInto_lines log)
  have short : ∀ l ∈ shownLines (Text.lines log), l.length ≤ 2 ^ 64 := fun l hl =>
    ((Text.breaksInto_lines log).length_le l (mem_of_mem_shownLines hl)).trans fits.le
  rw [auditLog_eq]
  by_cases wide : a.width.1 < 2 ^ 63
  · simp only [reportWithRows_eq_ok wide short shown, wide, true_or]
  by_cases nothing : Text.lines log = []
  · rw [nothing, shownLines_eq_nil_iff.mpr rfl] at shown
    rw [nothing, shownLines_eq_nil_iff.mpr rfl]
    have empty : rows a.width [] = .ok (PageAudit.rows a.width []) := rfl
    simp only [reportWithRows, empty, ← shown, ok_bind, or_true, iff_true]
    split <;> rfl
  · rw [reportWithRows_eq_error (Nat.le_of_not_lt wide) (mt shownLines_eq_nil_iff.mp nothing)]
    simp only [wide, nothing, false_or, or_false]
    cases (a.auditLog stage log).verdict.passed <;> simp

end

/-- Asking for widths below a limit gives no width above it. -/
theorem width_foldl_withWidth_lt {limit : Nat} {ns : List Nat} {a : Auditor} (start : a.width.1 < limit)
    (h : ∀ n ∈ ns, n < limit) : (ns.foldl Auditor.withWidth a).width.1 < limit := by
  induction ns generalizing a with
  | nil => exact start
  | cons n ns ih =>
    obtain ⟨first, rest⟩ := List.forall_mem_cons.mp h
    refine ih ?_ rest
    rw [Auditor.withWidth, Width.orKeep]
    split
    · exact first
    · exact start

/-- The headers of a log are short, so its lines fit if the texts of the dump do. -/
theorem length_le_of_mem_dumpLines {d : Dump} (physical : d.physical.length < 2 ^ 64)
    (virtuals : ∀ raw ∈ d.virtuals.toList, raw.length < 2 ^ 64) :
    ∀ l ∈ d.lines, l.length ≤ 2 ^ 64 := by
  have banner : bannerHeader.length ≤ 28 ∧ physicalHeader.length ≤ 28 := by decide
  have headers : ∀ pid ∈ processIds, (virtualHeader pid).length ≤ 28 :=
    forall_mem_processIds.mpr (by decide)
  intro l hl
  rcases List.mem_append.mp hl with first | block
  · simp only [List.mem_cons, List.not_mem_nil, or_false] at first
    rcases first with rfl | rfl | rfl <;> omega
  · obtain ⟨⟨pid, raw⟩, place, hl⟩ := List.mem_flatMap.mp block
    obtain ⟨known, shown⟩ := List.of_mem_zip place
    have header := headers pid known
    have data := virtuals raw shown
    simp only [List.mem_cons, List.not_mem_nil, or_false] at hl
    rcases hl with rfl | rfl <;> omega

/-- No audit lapses, of whatever text and at whatever stage. An auditor that was asked for widths below
2^63, zero among them, comes step by step to its report on a log or a dump: every place that is looked
up exists, no row is to have no characters, and every size, byte and difference on the way is in range.
The lengths of the texts are sizes too, as those of all texts in the memory of such a machine are.
Whatever is decoded can also be encoded, with tags that are bytes. -/
theorem audit_without_lapse (ns : List Nat) (widths : ∀ n ∈ ns, n < 2 ^ 63) (stage : Stage) :
    let a := ns.foldl Auditor.withWidth Auditor.default
    (∀ log : Text, log.length < 2 ^ 64 → auditLog a stage log = .ok (a.auditLog stage log)) ∧
    (∀ d : Dump, d.physical.length < 2 ^ 64 → (∀ raw ∈ d.virtuals.toList, raw.length < 2 ^ 64) →
      auditDump a stage d = .ok (a.auditDump stage d)) ∧
    ∀ p raw s, AddressSpace.decode p raw = .ok s → encode s = .ok s.encode := by
  intro a
  have wide : a.width.1 < 2 ^ 63 := width_foldl_withWidth_lt (by decide) widths
  refine ⟨?_, ?_, ?_⟩
  · intro log fits
    exact (auditLog_eq_ok_iff stage fits).mpr (.inl wide)
  · intro d physical virtuals
    exact auditDump_eq_ok stage wide (length_le_of_mem_dumpLines physical virtuals)
  · intro p raw s decoded
    exact encode_eq_ok decoded

/-- The greatest width below the limit, asked for after zero. A log that ends in the middle of the
headers, a dump of lines that are too short, and an address space that is all process four. -/
theorem audit_without_lapse_at_widest :
    let a := [0, 2 ^ 63 - 1].foldl Auditor.withWidth Auditor.default
    let log := "Starting WeensyOS\r\nPHYSICAL".toList
    let d : Dump := ⟨"R4".toList, #v["1u".toList, [], [], ['x']]⟩
    a.width.1 = 2 ^ 63 - 1 ∧
    auditLog a .four log = .ok ⟨.four,
      .faulty (.badHeader 1 physicalHeader "PHYSICAL".toList),
      ["Starting WeensyOS".toList, "PHYSICAL".toList],
      (a.auditLog .four log).trace⟩ ∧
    (∃ r, auditDump a .four d = .ok r ∧ r.verdict = .faulty (.frameTags 2)) ∧
    ∃ s, AddressSpace.decode 4 (List.replicate 1536 '4') = .ok s ∧ encode s = .ok s.encode := by
  intro a log d
  have widths : ∀ n ∈ [0, 2 ^ 63 - 1], n < 2 ^ 63 := by decide
  obtain ⟨logs, dumps, codes⟩ := audit_without_lapse [0, 2 ^ 63 - 1] widths .four
  obtain ⟨s, decoded⟩ := (AddressSpace.exists_decode_iff 4 (List.replicate 1536 '4')).mpr
    List.length_replicate
  refine ⟨rfl, ?_, ?_, s, decoded, codes _ _ s decoded⟩
  · rw [logs log (by decide)]
    rfl
  · exact ⟨_, dumps d (by decide) (by decide), rfl⟩

end PageAudit.Guarded
