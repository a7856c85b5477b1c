/-
Module: Beamwalk.Text.Number
Purpose: Natural numbers typed by people.
Main exports: Text.parseNat?
-/

namespace Beamwalk.Text

/-- The number of a non-empty sequence of digits, if it is below the limit.
Leading zeros do no harm. -/
def digitsBelow? (limit : Nat) (digits : List Char) : Option Nat :=
  if digits.isEmpty || !digits.all Char.isDigit then none
  else
    let n := Nat.ofDigitChars 10 digits 0
    if n < limit then some n else none

/-- A number below the limit, with or without a plus sign in front. -/
def parseNat? (limit : Nat) : List Char → Option Nat
  | '+' :: digits => digitsBelow? limit digits
  | digits => digitsBelow? limit digits

end Beamwalk.Text
