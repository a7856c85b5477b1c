/-
Module: Beamwalk.Proofs.Text.Number
Purpose: The numbers that digits spell.
Main exports: Text.ofDigitChars_lt, Text.parseNat?_of_digits, Text.parseNat?_toDigits
-/
import Beamwalk.Text.Number

namespace Beamwalk.Text

variable {limit : Nat} {digits : List Char}

/-- A digit is worth less than ten. -/
theorem digit_lt_ten {c : Char} (hc : c.isDigit = true) : c.toNat - '0'.toNat < 10 := by
  simp only [Char.isDigit, Bool.and_eq_true, decide_eq_true_eq] at hc
  have hupper : c.toNat ≤ 57 := hc.2
  have hzero : '0'.toNat = 48 := rfl
  omega

/-- A number has no more digits than are spelled. -/
theorem ofDigitChars_lt (hdigits : ∀ c ∈ digits, c.isDigit = true) :
    Nat.ofDigitChars 10 digits 0 < Nat.pow 10 digits.length := by
  induction digits with
  | nil => exact Nat.one_pos
  | cons c rest ih =>
      have hc := digit_lt_ten (hdigits c List.mem_cons_self)
      have hrest := ih fun d hd => hdigits d (List.mem_cons_of_mem c hd)
      rw [Nat.ofDigitChars_cons, Nat.ofDigitChars_eq_ofDigitChars_zero, Nat.mul_zero, Nat.zero_add,
        List.length_cons]
      calc Nat.pow 10 rest.length * (c.toNat - '0'.toNat) + Nat.ofDigitChars 10 rest 0
          < Nat.pow 10 rest.length * (c.toNat - '0'.toNat) + Nat.pow 10 rest.length :=
            Nat.add_lt_add_left hrest _
        _ = Nat.pow 10 rest.length * (c.toNat - '0'.toNat + 1) := (Nat.mul_succ _ _).symm
        _ ≤ Nat.pow 10 rest.length * 10 := Nat.mul_le_mul_left _ hc
        _ = Nat.pow 10 (rest.length + 1) := rfl

/-- Digits are read as the number that they spell, if it is below the limit. -/
theorem parseNat?_of_lt (hne : digits ≠ []) (hdigits : ∀ c ∈ digits, c.isDigit = true)
    (hvalue : Nat.ofDigitChars 10 digits 0 < limit) :
    parseNat? limit digits = some (Nat.ofDigitChars 10 digits 0) := by
  have hbelow : digitsBelow? limit digits = some (Nat.ofDigitChars 10 digits 0) := by
    have hall : digits.all Char.isDigit = true := List.all_eq_true.2 hdigits
    have hempty : digits.isEmpty = false := by simpa using hne
    rw [digitsBelow?, hall, hempty, if_neg (by decide)]
    exact if_pos hvalue
  cases digits with
  | nil => exact absurd rfl hne
  | cons c rest =>
      have hplus : c ≠ '+' := by
        rintro rfl
        exact absurd (hdigits '+' List.mem_cons_self) (by decide)
      rw [parseNat?.eq_2 _ _ fun _ h => hplus (List.cons.inj h).1]
      exact hbelow

/-- Digits are read as long as all numbers with so many digits are below the limit. -/
theorem parseNat?_of_digits (hne : digits ≠ []) (hdigits : ∀ c ∈ digits, c.isDigit = true)
    (hlimit : Nat.pow 10 digits.length ≤ limit) :
    parseNat? limit digits = some (Nat.ofDigitChars 10 digits 0) :=
  parseNat?_of_lt hne hdigits (Nat.lt_of_lt_of_le (ofDigitChars_lt hdigits) hlimit)

/-- A number below the limit is read from its digits. -/
theorem parseNat?_toDigits {n : Nat} (h : n < limit) :
    parseNat? limit (Nat.toDigits 10 n) = some n := by
  have hvalue : Nat.ofDigitChars 10 (Nat.toDigits 10 n) 0 = n :=
    Nat.ofDigitChars_toDigits (by decide) (by decide)
  have hdigits : ∀ c ∈ Nat.toDigits 10 n, c.isDigit = true := fun c hc =>
    Nat.isDigit_of_mem_toDigits (by decide) (by decide) hc
  rw [parseNat?_of_lt Nat.toDigits_ne_nil hdigits (by rwa [hvalue]), hvalue]

end Beamwalk.Text
