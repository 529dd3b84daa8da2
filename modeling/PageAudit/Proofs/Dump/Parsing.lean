import PageAudit.Dump.Basic
import PageAudit.Proofs.Steps
import PageAudit.Proofs.Text.LineBreaks
import Mathlib.Order.Bounds.Basic

/-!
# Which logs are read, and which line is the fault of the others

The grammar of a log is stated by line number: `headerAt?` gives the six headers, and a line
below number 11 is a `Defect` if it is missing or is another text than its header. Reading goes
line by line (`checkLine`), so the first defect ends it.

* `ofLines_eq`: reading is a check of the first eleven lines and then a look at five of them;
* `ofLines_eq_ok_iff`, `ofLines_eq_error_iff`: what it gives on a log with and without a defect;
* `parse_exact`: the same for the text of a log.
-/
namespace PageAudit.Dump

open Steps Text

/-! ## The grammar -/

/-- The header that has to stand on a line, by the number of the line. -/
def headerAt? : Nat → Option Text
  | 0 => some "Starting WeensyOS".toList
  | 1 => some "PHYSICAL MEMORY DUMP".toList
  | 3 => some "VIRTUAL MEMORY FOR PROCESS 1".toList
  | 5 => some "VIRTUAL MEMORY FOR PROCESS 2".toList
  | 7 => some "VIRTUAL MEMORY FOR PROCESS 3".toList
  | 9 => some "VIRTUAL MEMORY FOR PROCESS 4".toList
  | _ => none

/-- Whether a line that a dump needs is missing or is not its header. -/
def Defect (ls : List Text) (n : Nat) : Prop :=
  n < 11 ∧ (ls.length ≤ n ∨ ∃ t, headerAt? n = some t ∧ ls[n]? ≠ some t)

/-- The lines of a log that shows a dump. -/
structure WellFormed (ls : List Text) : Prop where
  enough : 11 ≤ ls.length
  headers : ∀ n t, headerAt? n = some t → ls[n]? = some t

/-- The dump at the places where a log has its data. -/
def ofPlaces (ls : List Text) : Dump :=
  ⟨ls.getD 2 [], #v[ls.getD 4 [], ls.getD 6 [], ls.getD 8 [], ls.getD 10 []]⟩

theorem lt_of_headerAt? {n : Nat} {t : Text} (h : headerAt? n = some t) : n < 11 := by
  unfold headerAt? at h
  split at h <;> first | omega | cases h

theorem wellFormed_iff {ls : List Text} : WellFormed ls ↔ ∀ n, ¬ Defect ls n := by
  constructor
  · intro w n hdef
    obtain ⟨enough, headers⟩ := w
    obtain ⟨hn, hmiss | ⟨t, ht, hne⟩⟩ := hdef
    · omega
    · exact hne (headers n t ht)
  · intro h
    refine ⟨?_, ?_⟩
    · by_contra hlt
      exact h 10 ⟨by omega, .inl (by omega)⟩
    · intro n t ht
      by_contra hne
      exact h n ⟨lt_of_headerAt? ht, .inr ⟨t, ht, hne⟩⟩

/-- If the first defect is a missing line, it is the first of all that are missing. -/
theorem length_eq_of_isLeast {ls : List Text} {k : Nat} (hk : IsLeast {n | Defect ls n} k)
    (h : ls.length ≤ k) : ls.length = k := by
  obtain ⟨⟨hk11, -⟩, hmin⟩ := hk
  have hlen : Defect ls ls.length := ⟨by omega, .inl (Nat.le_refl _)⟩
  have := hmin hlen
  omega

/-! ## One line -/

/-- The check of a line: it is there, and it is the header if there has to be one. -/
def checkLine (ls : List Text) (n : Nat) : Except Fault Unit :=
  match ls[n]?, headerAt? n with
  | none, _ => .error (.missingLine n n)
  | some l, some t => if l = t then .ok () else .error (.badHeader n t l)
  | some _, none => .ok ()

theorem checkLine_of_le {ls : List Text} {n : Nat} (h : ls.length ≤ n) :
    checkLine ls n = .error (.missingLine n n) := by
  simp [checkLine, h]

theorem checkLine_of_ne {ls : List Text} {n : Nat} {t : Text} (hn : n < ls.length)
    (ht : headerAt? n = some t) (hne : ls[n] ≠ t) :
    checkLine ls n = .error (.badHeader n t ls[n]) := by
  simp [checkLine, hn, ht, hne]

theorem checkLine_eq_ok_iff {ls : List Text} {n : Nat} (hn : n < 11) :
    checkLine ls n = .ok () ↔ ¬ Defect ls n := by
  rcases Nat.lt_or_ge n ls.length with h | h
  · cases ht : headerAt? n with
    | none => simp [checkLine, Defect, h, ht]
    | some t =>
      by_cases hl : ls[n] = t
      · simp [checkLine, Defect, h, ht, hl]
      · simp [checkLine, Defect, hn, h, ht, hl]
  · simp [checkLine, Defect, hn, h]

theorem takeLine_drop (ls : List Text) {n : Nat} (hn : headerAt? n = none) :
    takeLine n (ls.drop n) = do checkLine ls n; return (ls.getD n [], ls.drop (n + 1)) := by
  rcases Nat.lt_or_ge n ls.length with h | h
  · rw [List.drop_eq_getElem_cons h]
    simp [takeLine, checkLine, hn, h]
  · rw [List.drop_eq_nil_of_le h, checkLine_of_le h]
    rfl

theorem takeHeader_drop (ls : List Text) {n : Nat} {t : Text} (hn : headerAt? n = some t) :
    takeHeader n t (ls.drop n) = do checkLine ls n; return ls.drop (n + 1) := by
  rcases Nat.lt_or_ge n ls.length with h | h
  · rw [List.drop_eq_getElem_cons h]
    by_cases hl : ls[n] = t
    · simp [takeHeader, takeLine, checkLine, hn, h, hl, pure, Except.pure]
    · simp [takeHeader, takeLine, checkLine, hn, h, hl]
  · rw [List.drop_eq_nil_of_le h, checkLine_of_le h]
    rfl

theorem takeVirtual_drop (ls : List Text) {n : Nat} {p : UInt8}
    (hn : headerAt? n = some (virtualHeader p)) (hd : headerAt? (n + 1) = none) :
    takeVirtual n p (ls.drop n) = do
      checkLine ls n
      checkLine ls (n + 1)
      return (ls.getD (n + 1) [], ls.drop (n + 2)) := by
  simp only [takeVirtual, takeHeader_drop ls hn, takeLine_drop ls hd, bind_assoc, pure_bind]

/-! ## All of them -/

/-- The lines are checked one after the other; only then are the data taken. -/
theorem ofLines_eq (ls : List Text) :
    ofLines ls = do (List.range 11).forM (checkLine ls); return ofPlaces ls := by
  have banner := takeHeader_drop ls (show headerAt? 0 = some bannerHeader from rfl)
  have physical := takeHeader_drop ls (show headerAt? 1 = some physicalHeader from rfl)
  have frames := takeLine_drop ls (show headerAt? 2 = none from rfl)
  have one := takeVirtual_drop ls (show headerAt? 3 = some (virtualHeader 1) from rfl) rfl
  have two := takeVirtual_drop ls (show headerAt? 5 = some (virtualHeader 2) from rfl) rfl
  have three := takeVirtual_drop ls (show headerAt? 7 = some (virtualHeader 3) from rfl) rfl
  have four := takeVirtual_drop ls (show headerAt? 9 = some (virtualHeader 4) from rfl) rfl
  have range : List.range 11 = [0, 1, 2, 3, 4, 5, 6, 7, 8, 9, 10] := rfl
  rw [List.drop_zero] at banner
  simp only [ofLines, banner, physical, frames, one, two, three, four, range, List.forM_eq_forM,
    List.forM_cons, List.forM_nil, bind_assoc, pure_bind, Nat.reduceAdd, ofPlaces]

theorem ofLines_eq_ok_iff {ls : List Text} {d : Dump} :
    ofLines ls = .ok d ↔ WellFormed ls ∧ d = ofPlaces ls := by
  rw [ofLines_eq, bind_eq_ok_iff, wellFormed_iff]
  constructor
  · intro hread
    obtain ⟨_, h, hd⟩ := hread
    cases hd
    refine ⟨?_, rfl⟩
    intro n hdef
    exact (checkLine_eq_ok_iff hdef.1).mp (forM_range_eq_ok_iff.mp h n hdef.1) hdef
  · intro hw
    obtain ⟨h, rfl⟩ := hw
    exact ⟨(), forM_range_eq_ok_iff.mpr fun n hn => (checkLine_eq_ok_iff hn).mpr (h n), rfl⟩

theorem ofLines_eq_error_iff {ls : List Text} {f : Fault} :
    ofLines ls = .error f ↔ ∃ k, IsLeast {n | Defect ls n} k ∧ checkLine ls k = .error f := by
  rw [ofLines_eq, bind_eq_error_iff, forM_range_eq_error_iff]
  constructor
  · intro hread
    rcases hread with ⟨k, hk, hf, hj⟩ | ⟨_, _, h⟩
    · refine ⟨k, ⟨?_, ?_⟩, hf⟩
      · by_contra hdef
        rw [(checkLine_eq_ok_iff hk).mpr hdef] at hf
        cases hf
      · intro n hn
        by_contra hlt
        exact (checkLine_eq_ok_iff hn.1).mp (hj n (by omega)) hn
    · cases h
  · intro hleast
    obtain ⟨k, ⟨hk, hmin⟩, hf⟩ := hleast
    refine .inl ⟨k, hk.1, hf, ?_⟩
    intro j hj
    have hj11 : j < 11 := by have := hk.1; omega
    refine (checkLine_eq_ok_iff hj11).mpr fun hdef => ?_
    have := hmin hdef
    omega

theorem exists_isLeast_defect {ls : List Text} (h : ¬ WellFormed ls) :
    ∃ k, IsLeast {n | Defect ls n} k := by
  cases hls : ofLines ls with
  | ok d => exact absurd (ofLines_eq_ok_iff.mp hls).1 h
  | error f =>
    obtain ⟨k, hk, -⟩ := ofLines_eq_error_iff.mp hls
    exact ⟨k, hk⟩

/-- A first defect on a line that is there is a wrong header. -/
theorem ofLines_of_wrong_line {ls : List Text} {k : Nat} (least : IsLeast {n | Defect ls n} k)
    (hk : k < ls.length) :
    ∃ t, headerAt? k = some t ∧ ofLines ls = .error (.badHeader k t ls[k]) := by
  obtain ⟨-, hmiss | ⟨t, ht, hne⟩⟩ := least.1
  · omega
  · refine ⟨t, ht, ofLines_eq_error_iff.mpr ⟨k, least, ?_⟩⟩
    exact checkLine_of_ne hk ht (by simpa [hk] using hne)

/-- A first defect on a line that is not there is the end of the log. -/
theorem ofLines_of_missing_line {ls : List Text} {k : Nat} (least : IsLeast {n | Defect ls n} k)
    (hk : ls.length ≤ k) :
    k = ls.length ∧ ofLines ls = .error (.missingLine k ls.length) := by
  obtain rfl := length_eq_of_isLeast least hk
  exact ⟨rfl, ofLines_eq_error_iff.mpr ⟨_, least, checkLine_of_le hk⟩⟩

/-- Nothing after the eleventh line is looked at. -/
theorem ofLines_take (ls : List Text) : ofLines (ls.take 11) = ofLines ls := by
  have line : ∀ n < 11, (ls.take 11)[n]? = ls[n]? := fun n hn => List.getElem?_take_of_lt hn
  have check : ∀ n < 11, checkLine (ls.take 11) n = checkLine ls n := by
    intro n hn
    simp only [checkLine, line n hn]
  have places : ofPlaces (ls.take 11) = ofPlaces ls := by
    simp only [ofPlaces, List.getD_eq_getElem?_getD, line 2 (by decide), line 4 (by decide),
      line 6 (by decide), line 8 (by decide), line 10 (by decide)]
  rw [ofLines_eq, ofLines_eq, forM_range_congr check, places]

/-- The data of a dump stand word for word in the log that shows it. -/
theorem ofPlaces_verbatim {ls : List Text} (enough : 11 ≤ ls.length) :
    ls[2]? = some (ofPlaces ls).physical ∧
      ∀ i (hi : i < 4), ls[4 + 2 * i]? = some (ofPlaces ls).virtuals[i] := by
  have line : ∀ n < 11, ls[n]? = some (ls.getD n []) := by
    intro n hn
    have hn' : n < ls.length := by omega
    simp [hn']
  refine ⟨line 2 (by decide), ?_⟩
  intro i hi
  match i with
  | 0 => exact line 4 (by decide)
  | 1 => exact line 6 (by decide)
  | 2 => exact line 8 (by decide)
  | 3 => exact line 10 (by decide)

/-! ## The text of a log -/

theorem parse_of_breaksInto {log : Text} {ls : List Text} (h : BreaksInto log ls) :
    parse log = ofLines ls := by
  rw [parse, h.lines_eq]

/-- A log is read exactly if it keeps to the grammar, its data are taken word for word, and
nothing after the eleventh line counts. Of any other log the first defect is the fault: a text
in a header's place if there is a text, else the end of the log, and then the missing line is
the number of lines that there are. -/
theorem parse_exact {log : Text} {ls : List Text} (h : BreaksInto log ls) :
    ((∃ d, parse log = .ok d) ↔ WellFormed ls) ∧
    (∀ d, parse log = .ok d →
      ls[2]? = some d.physical ∧ ∀ i (hi : i < 4), ls[4 + 2 * i]? = some d.virtuals[i]) ∧
    (∀ log' ls', BreaksInto log' ls' → 11 ≤ ls.length → 11 ≤ ls'.length →
      ls'.take 11 = ls.take 11 → parse log' = parse log) ∧
    (¬ WellFormed ls → ∃ k, IsLeast {n | Defect ls n} k) ∧
    (∀ k, IsLeast {n | Defect ls n} k →
      (∀ hk : k < ls.length, ∃ t, headerAt? k = some t ∧
        parse log = .error (.badHeader k t ls[k])) ∧
      (ls.length ≤ k → k = ls.length ∧ parse log = .error (.missingLine k ls.length))) ∧
    (ls.length < 11 → (∃ n t l, headerAt? n = some t ∧ ls[n]? = some l ∧ l ≠ t) →
      ∃ n t l, parse log = .error (.badHeader n t l)) := by
  rw [parse_of_breaksInto h]
  refine ⟨⟨?_, ?_⟩, ?_, ?_, exists_isLeast_defect, ?_, ?_⟩
  · intro hread
    obtain ⟨d, hd⟩ := hread
    exact (ofLines_eq_ok_iff.mp hd).1
  · exact fun w => ⟨_, ofLines_eq_ok_iff.mpr ⟨w, rfl⟩⟩
  · intro d hd
    obtain ⟨w, rfl⟩ := ofLines_eq_ok_iff.mp hd
    exact ofPlaces_verbatim w.enough
  · intro log' ls' h' _ _ htake
    rw [parse_of_breaksInto h', ← ofLines_take ls', htake, ofLines_take]
  · intro k hk
    exact ⟨ofLines_of_wrong_line hk, ofLines_of_missing_line hk⟩
  · intro hshort hwrong
    obtain ⟨n, t, l, ht, hl, hne⟩ := hwrong
    have hn : Defect ls n := ⟨lt_of_headerAt? ht, .inr ⟨t, ht, by simpa [hl] using hne⟩⟩
    have hnl : n < ls.length := (List.getElem?_eq_some_iff.mp hl).1
    obtain ⟨k, hk⟩ := exists_isLeast_defect fun w => wellFormed_iff.mp w n hn
    have hkn : k ≤ n := hk.2 hn
    obtain ⟨t', -, hf⟩ := ofLines_of_wrong_line hk (by omega)
    exact ⟨k, t', _, hf⟩

/-- A log with output after the dump is read like the log without, and a log that breaks off
after a wrong second line is refused for that line. -/
theorem parse_exact_on_logs :
    let ls := Dump.lines ⟨[], #v[[], [], [], []]⟩
    let broken := ["Starting WeensyOS".toList, "panic".toList]
    (BreaksInto (unlines ls) ls ∧ parse (unlines (ls ++ ["bye".toList])) = parse (unlines ls)) ∧
    BreaksInto "Starting WeensyOS\r\npanic".toList broken ∧ IsLeast {n | Defect broken n} 1 ∧
    parse "Starting WeensyOS\r\npanic".toList =
      .error (.badHeader 1 "PHYSICAL MEMORY DUMP".toList "panic".toList) := by
  intro ls broken
  have whole : BreaksInto (unlines ls) ls := breaksInto_iff.mpr (lines_unlines (by decide))
  have longer : BreaksInto (unlines (ls ++ ["bye".toList])) (ls ++ ["bye".toList]) :=
    breaksInto_iff.mpr (lines_unlines (by decide))
  have short : BreaksInto "Starting WeensyOS\r\npanic".toList broken :=
    breaksInto_iff.mpr (by decide)
  have first : IsLeast {n | Defect broken n} 1 := by
    refine ⟨⟨by decide, .inr ⟨_, rfl, by decide⟩⟩, ?_⟩
    intro n hdef
    obtain ⟨-, hn⟩ := hdef
    by_contra hlt
    obtain rfl : n = 0 := by omega
    obtain hn | ⟨t, ht, hne⟩ := hn
    · exact absurd hn (by decide)
    · cases ht
      exact hne rfl
  refine ⟨⟨whole, ?_⟩, short, first, ?_⟩
  · exact (parse_exact whole).2.2.1 _ _ longer (by decide) (by decide) rfl
  · obtain ⟨t, ht, h⟩ := ((parse_exact short).2.2.2.2.1 1 first).1 (by decide)
    cases ht
    exact h

end PageAudit.Dump
