import Mathlib.Data.List.Basic
import MockHttp.Text.Number

/-!
# Digits of numbers

Reading the decimal digits of a number gives the number back, as long as it is not too large.

Results:
1. `readDigits_eq`: what some digits are read as.
2. `head?_toDigits`: a number is written without zeros in front.
3. `readWord_repr`: a number of 64 bits is read back from its digits.
-/

namespace MockHttp.Text

/-- Digits that continue a number make it no smaller. -/
theorem le_ofDigitChars (cs : List Char) (n : Nat) : n ≤ Nat.ofDigitChars 10 cs n := by
  induction cs generalizing n with
  | nil => exact Nat.le_of_eq Nat.ofDigitChars_nil.symm
  | cons c cs ih =>
    rw [Nat.ofDigitChars_cons]
    exact Nat.le_trans (by omega) (ih _)

/-- Digits are read as what they stand for, if it is not too large. -/
theorem readDigits_eq {greatest : Nat} {cs : List Char} (hdigits : ∀ c ∈ cs, c.isDigit = true)
    {n : Nat} (h : Nat.ofDigitChars 10 cs n ≤ greatest) :
    readDigits greatest n cs = .ok (Nat.ofDigitChars 10 cs n) := by
  induction cs generalizing n with
  | nil => rw [readDigits, Nat.ofDigitChars_nil]
  | cons c cs ih =>
    have hc := hdigits c List.mem_cons_self
    rw [Nat.ofDigitChars_cons] at h ⊢
    have hle := le_ofDigitChars cs (10 * n + (c.toNat - '0'.toNat))
    rw [readDigits, if_neg (by simp [hc]), Nat.mul_comm n 10]
    have hrest := ih (fun d hd => hdigits d (List.mem_cons_of_mem c hd)) h
    exact (if_pos (Nat.le_trans hle h)).trans hrest

/-- The digits of a positive number do not begin with a zero. -/
theorem head?_toDigits {n : Nat} (hn : 0 < n) : (Nat.toDigits 10 n).head? ≠ some '0' := by
  induction n using Nat.strongRecOn with
  | ind n ih =>
    by_cases hsmall : n < 10
    · have hdigit : ∀ d < 10, 0 < d → Nat.digitChar d ≠ '0' := by decide
      rw [Nat.toDigits_of_lt_base hsmall]
      exact fun h => hdigit n hsmall hn (Option.some_inj.mp h)
    · rw [Nat.toDigits_of_base_le (by decide) (Nat.le_of_not_lt hsmall),
        List.head?_append_of_ne_nil _ Nat.toDigits_ne_nil]
      exact ih (n / 10) (Nat.div_lt_self hn (by decide)) (by omega)

/-- A number of 64 bits is read back from its digits. -/
theorem readWord_repr {n : Nat} (h : n ≤ maxWord) : readWord (Nat.repr n) = .ok n := by
  have hvalue : Nat.ofDigitChars 10 (Nat.toDigits 10 n) 0 = n := Nat.ofDigitChars_ten_toDigits
  have hdecimal : ∀ c ∈ Nat.toDigits 10 n, c.isDigit = true := fun c hc =>
    Nat.isDigit_of_mem_toDigits (by decide) (by decide) hc
  have hread : readDigits maxWord 0 (Nat.toDigits 10 n) = .ok n := by
    rw [readDigits_eq hdecimal (by rw [hvalue]; exact h), hvalue]
  rw [readWord, Nat.toList_repr]
  cases hdigits : Nat.toDigits 10 n with
  | nil => exact absurd hdigits Nat.toDigits_ne_nil
  | cons c cs =>
    have hc : c.isDigit = true := hdecimal c (hdigits ▸ List.mem_cons_self)
    rw [hdigits] at hread
    have hplus : c ≠ '+' := by
      rintro rfl
      exact absurd hc (by decide)
    rw [readNumber]
    · exact hread
    · simp
    · simp [hplus]
    · simp [hplus]

end MockHttp.Text
