import PageAudit.Settings.Environment
import Mathlib.Algebra.Ring.Nat
import Mathlib.Data.List.TakeWhile

/-!
# Numbers written in a text

`Writes` says which number a text writes, if it writes one: there may be blanks at both ends, then a
plus sign or none, then one digit at least, and zeros in front do not count. Nothing is said of how
large the number is; only what reads it sets a limit.

* `trim_eq`: what is left of a text without the blanks at its ends;
* `readNatural_eq_some_iff`: what is read of a text without blanks;
* `readSize_trim_eq_some_iff`: a text is read as a size exactly if it writes one.
-/
namespace PageAudit.Text

/-- Whether all characters of a text are blanks. -/
def Blank (t : Text) : Prop := ∀ c ∈ t, isBlank c = true

instance (t : Text) : Decidable (Blank t) := decidable_of_iff (t.all isBlank) List.all_eq_true

/-- A number in decimal digits. -/
structure Digits (t : Text) (n : Nat) : Prop where
  nonempty : t ≠ []
  digits : ∀ c ∈ t, c.isDigit = true
  value : n = Nat.ofDigitChars 10 t 0

/-- The number that a text writes. -/
inductive Writes : Text → Nat → Prop
  | bare {before digits behind : Text} {n : Nat} :
      Blank before → Digits digits n → Blank behind → Writes (before ++ digits ++ behind) n
  | plus {before digits behind : Text} {n : Nat} :
      Blank before → Digits digits n → Blank behind → Writes (before ++ '+' :: digits ++ behind) n

/-! ## Blanks at the ends -/

/-- Taking the blanks off the ends leaves what is between them. -/
theorem trim_eq {before core behind : Text} (hb : Blank before) (he : Blank behind)
    (some : core ≠ []) (solid : ∀ c ∈ core, isBlank c = false) :
    trim (before ++ core ++ behind) = core := by
  have start : ∀ t : Text, t ≠ [] → (∀ c ∈ t, isBlank c = false) → ∀ r,
      (t ++ r).dropWhile isBlank = t ++ r := by
    intro t nonempty solid r
    cases t with
    | nil => exact absurd rfl nonempty
    | cons c t => simp [solid c List.mem_cons_self]
  have last : trimEnd (before ++ core ++ behind) = before ++ core := by
    have tail : ∀ c ∈ behind.reverse, isBlank c = true := by simpa [Blank] using he
    rw [trimEnd, List.reverse_append, List.dropWhile_append_of_pos tail, List.reverse_append,
      start core.reverse (by simpa using some) (by simpa using solid), ← List.reverse_append,
      List.reverse_reverse]
  have first := start core some solid []
  rw [List.append_nil] at first
  rw [trim, last, trimStart, List.dropWhile_append_of_pos hb, first]

theorem blank_takeWhile (t : Text) : Blank (t.takeWhile isBlank) := by
  intro c hc
  exact List.mem_takeWhile_imp hc

/-- A text is what is left without the blanks at its ends, and those. -/
theorem exists_trim (t : Text) :
    ∃ before behind, Blank before ∧ Blank behind ∧ t = before ++ trim t ++ behind := by
  refine ⟨(trimEnd t).takeWhile isBlank, (t.reverse.takeWhile isBlank).reverse,
    blank_takeWhile _, ?_, ?_⟩
  · intro c hc
    exact blank_takeWhile t.reverse c (List.mem_reverse.mp hc)
  · have ends : trimEnd t ++ (t.reverse.takeWhile isBlank).reverse = t := by
      rw [trimEnd, ← List.reverse_append, List.takeWhile_append_dropWhile, List.reverse_reverse]
    rw [trim, trimStart, List.takeWhile_append_dropWhile, ends]

/-! ## Readers -/

theorem readDigits_eq_some_iff {t : Text} {n : Nat} : readDigits t = some n ↔ Digits t n := by
  have refused : (t.isEmpty || !t.all Char.isDigit) = true ↔
      ¬ (t ≠ [] ∧ ∀ c ∈ t, c.isDigit = true) := by
    rw [Bool.or_eq_true, List.isEmpty_iff, Bool.not_eq_true', ← Bool.not_eq_true, List.all_eq_true,
      not_and_or, not_not]
  unfold readDigits
  split
  · next bad =>
    constructor
    · intro h
      cases h
    · intro h
      exact absurd ⟨h.nonempty, h.digits⟩ (refused.mp bad)
  · next good =>
    rw [refused, not_not] at good
    constructor
    · intro h
      exact ⟨good.1, good.2, (Option.some.inj h).symm⟩
    · intro h
      rw [h.value]

theorem readBelow_eq_some_iff {limit n : Nat} {t : Text} :
    readBelow limit t = some n ↔ Digits t n ∧ n < limit := by
  rw [readBelow_eq, Option.filter_eq_some_iff, readDigits_eq_some_iff, decide_eq_true_iff]

theorem readNatural_eq_some_iff {limit n : Nat} {t : Text} : readNatural limit t = some n ↔
    (Digits t n ∨ ∃ r, t = '+' :: r ∧ Digits r n) ∧ n < limit := by
  unfold readNatural
  split
  · next r =>
    have unsigned : ¬ Digits ('+' :: r) n := by
      intro h
      exact absurd (h.digits '+' List.mem_cons_self) (by decide)
    simp [readBelow_eq_some_iff, unsigned]
  · next unsigned =>
    have bare : ¬ ∃ r, t = '+' :: r ∧ Digits r n := by
      intro h
      obtain ⟨r, ht, -⟩ := h
      exact unsigned r ht
    simp [readBelow_eq_some_iff, bare]

theorem not_isBlank_of_isDigit {c : Char} (h : c.isDigit = true) : isBlank c = false := by
  have digit : 48 ≤ c.toNat ∧ c.toNat ≤ 57 := by
    simpa [Char.isDigit, UInt32.le_iff_toNat_le] using h
  simp only [isBlank]
  grind

/-- A text is read as a size, blanks at its ends apart, exactly if it writes a number that is one. -/
theorem readSize_trim_eq_some_iff {t : Text} {n : Nat} :
    Environment.readSize (trim t) = some n ↔ Writes t n ∧ n < 2 ^ 64 := by
  have limit : Environment.sizeLimit = 2 ^ 64 := rfl
  rw [Environment.readSize, readNatural_eq_some_iff, limit]
  refine and_congr_left fun _ => ?_
  constructor
  · intro h
    obtain ⟨before, behind, hb, he, ht⟩ := exists_trim t
    rw [ht]
    rcases h with digits | ⟨r, hr, digits⟩
    · exact .bare hb digits he
    · rw [hr]
      exact .plus hb digits he
  · intro h
    cases h with
    | bare hb digits he =>
      rw [trim_eq hb he digits.nonempty fun c hc => not_isBlank_of_isDigit (digits.digits c hc)]
      exact .inl digits
    | @plus _ r _ _ hb digits he =>
      have solid : ∀ c ∈ '+' :: r, isBlank c = false := by
        intro c hc
        rcases List.mem_cons.mp hc with rfl | hc
        · rfl
        · exact not_isBlank_of_isDigit (digits.digits c hc)
      rw [trim_eq hb he (List.cons_ne_nil '+' r) solid]
      exact .inr ⟨r, rfl, digits⟩

end PageAudit.Text
