import PageAudit.Text.Numeral
import Mathlib.Data.Nat.Digits.Defs

/-!
# The characters of numerals

Numerals are made of digits and letters, so they can stand in front of a blank, between quotes or
on a line without being taken for anything else.

* `isAlphanum_of_mem_hex3`: the characters of a hexadecimal numeral;
* `length_hex3`: how long a filled numeral is.
-/
namespace PageAudit.Text

variable {n : Nat} {c : Char}

theorem isAlphanum_of_mem_decimal (h : c ∈ decimal n) : c.isAlphanum = true := by
  rw [Char.isAlphanum, isDigit_of_mem_decimal h, Bool.or_true]

theorem isAlphanum_digitChar {d : Nat} (h : d < 16) : d.digitChar.isAlphanum = true := by
  revert d
  decide

theorem isAlphanum_of_mem_hex (h : c ∈ hex n) : c.isAlphanum = true := by
  induction n using Nat.strongRecOn with
  | ind n ih =>
    unfold hex at h ih
    by_cases small : n < 16
    · rw [Nat.toDigits_of_lt_base small, List.mem_singleton] at h
      rw [h]
      exact isAlphanum_digitChar small
    · rw [Nat.toDigits_of_base_le (by decide) (Nat.not_lt.mp small), List.mem_append,
        List.mem_singleton] at h
      rcases h with before | rfl
      · exact ih (n / 16) (by omega) before
      · exact isAlphanum_digitChar (Nat.mod_lt n (by decide))

theorem isAlphanum_of_mem_hex3 (h : c ∈ hex3 n) : c.isAlphanum = true := by
  rw [hex3, List.leftpad, List.mem_append] at h
  rcases h with filling | digit
  · rw [(List.mem_replicate.mp filling).2]
    rfl
  · exact isAlphanum_of_mem_hex digit

/-- Numbers below `0x1000` need no more than the three digits that are always there. -/
theorem length_hex3 (h : n < 0x1000) : (hex3 n).length = 3 := by
  have digits : (hex n).length ≤ 3 := Nat.toDigits_length 16 n 3 (by decide) h
  rw [hex3, List.length_leftpad]
  omega

end PageAudit.Text
