import PageAudit.Text.Basic

/-!
# Numerals

Numbers are written in decimal, page indices also in lower-case hexadecimal of at least three
digits. A numeral that is read has an optional sign, at least one decimal digit and nothing
else; leading zeros do not count.

* `readBelow_eq`: a reader with a limit gives the same numbers, as far as they are below it.
-/
namespace PageAudit.Text

/-- The decimal digits of a number. -/
def decimal (n : Nat) : Text := Nat.toDigits 10 n

/-- The lower-case hexadecimal digits of a number. -/
def hex (n : Nat) : Text := Nat.toDigits 16 n

/-- The hexadecimal digits of a number, filled with zeros up to three. -/
def hex3 (n : Nat) : Text := (hex n).leftpad 3 '0'

/-- The value of a text of one or more decimal digits. -/
def readDigits (t : Text) : Option Nat :=
  if t.isEmpty || !t.all Char.isDigit then none else some (Nat.ofDigitChars 10 t 0)

/-- The value of a digit after those of the value `n`; from the limit on it stays at the limit,
so that numbers do not grow with the text. -/
def addDigit (limit n : Nat) (c : Char) : Nat := min limit (10 * n + (c.toNat - '0'.toNat))

/-- The value of a text of one or more decimal digits, if it is below a limit. -/
def readBelow (limit : Nat) (t : Text) : Option Nat :=
  if t.isEmpty || !t.all Char.isDigit then none
  else (some (t.foldl (addDigit limit) 0)).filter (· < limit)

/-- The number below `limit` that the text writes, with or without a plus sign. -/
def readNatural (limit : Nat) : Text → Option Nat
  | '+' :: r => readBelow limit r
  | t => readBelow limit t

/-- The number of at most `bits` bits, sign bit included, that the text writes. -/
def readInteger (bits : Nat) : Text → Option Int
  | '-' :: r => (readBelow (Nat.pow 2 (bits - 1) + 1) r).map fun n => -n
  | t => (readNatural (Nat.pow 2 (bits - 1)) t).map Int.ofNat

/-- Short numerals are filled, long ones are not cut. -/
example : hex3 184 = "0b8".toList ∧ hex3 0x187000 = "187000".toList := by decide

theorem isDigit_of_mem_decimal {n : Nat} {c : Char} (h : c ∈ decimal n) : c.isDigit = true :=
  Nat.isDigit_of_mem_toDigits (by decide) (by decide) h

theorem foldl_addDigit (limit : Nat) (t : Text) (n : Nat) :
    t.foldl (addDigit limit) (min limit n) = min limit (Nat.ofDigitChars 10 t n) := by
  induction t generalizing n with
  | nil => rfl
  | cons c t ih =>
    have step : addDigit limit (min limit n) c =
        min limit (10 * n + (c.toNat - '0'.toNat)) := by
      unfold addDigit; omega
    rw [List.foldl_cons, step, ih, Nat.ofDigitChars_cons]

/-- A reader with a limit gives the numbers below the limit that the reader without gives. -/
theorem readBelow_eq (limit : Nat) (t : Text) :
    readBelow limit t = (readDigits t).filter (· < limit) := by
  unfold readBelow readDigits
  split
  · rfl
  · have fold := foldl_addDigit limit t 0
    rw [Nat.min_zero] at fold
    have below : min limit (Nat.ofDigitChars 10 t 0) < limit ↔
        Nat.ofDigitChars 10 t 0 < limit := by omega
    by_cases h : Nat.ofDigitChars 10 t 0 < limit
    · rw [fold, Nat.min_eq_right (Nat.le_of_lt h)]
    · simp [Option.filter, fold, below, h]

end PageAudit.Text
