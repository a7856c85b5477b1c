/-
Module: Beamwalk.Json.Numeral
Purpose: Numbers as a JSON text spells them, and the numbers they stand for.
Main exports: Numeral, Numeral.scan?, Numeral.reading, Reading
-/

namespace Beamwalk

/-- A number as it is spelled. -/
structure Numeral where
  negative : Bool
  /-- The digits in front of the point. -/
  whole : List Char
  /-- The digits behind the point, if there is a point. -/
  fraction : Option (List Char)
  exponent : Option Int
deriving Repr, Inhabited, DecidableEq

/-- What a numeral stands for. -/
inductive Reading where
  /-- A whole number of 64 bits, signed or unsigned. -/
  | integer (value : Int)
  /-- Any other number, rounded to a double. -/
  | real (value : Float)
  /-- A number beyond the largest double. -/
  | outOfRange
deriving Repr, Inhabited

namespace Numeral

/-!
The grammar: an optional minus sign, digits without a leading zero, optionally
a point with at least one digit, optionally an exponent with at least one
digit.
-/

/-- The digits at the start of a text, and what follows. -/
def scanDigits (cs : List Char) : List Char × List Char :=
  (cs.takeWhile Char.isDigit, cs.dropWhile Char.isDigit)

/-- The digits in front of the point. -/
def scanWhole? : List Char → Option (List Char × List Char)
  | '0' :: rest =>
      match rest with
      | c :: _ => if c.isDigit then none else some (['0'], rest)
      | [] => some (['0'], [])
  | cs =>
      match scanDigits cs with
      | ([], _) => none
      | (ds, rest) => some (ds, rest)

/-- The point and its digits, where there is a point. -/
def scanFraction? : List Char → Option (Option (List Char) × List Char)
  | '.' :: rest =>
      match scanDigits rest with
      | ([], _) => none
      | (ds, rest) => some (some ds, rest)
  | cs => some (none, cs)

/-- The sign of an exponent. -/
def scanSign : List Char → Bool × List Char
  | '+' :: rest => (false, rest)
  | '-' :: rest => (true, rest)
  | cs => (false, cs)

/-- The number of a digit sequence. -/
def natOfDigits (ds : List Char) : Nat := Nat.ofDigitChars 10 ds 0

/-- The exponent, where there is one. -/
def scanExponent? : List Char → Option (Option Int × List Char)
  | c :: rest =>
      if c = 'e' || c = 'E' then
        let (negative, digits) := scanSign rest
        match scanDigits digits with
        | ([], _) => none
        | (ds, rest) =>
            let n : Int := natOfDigits ds
            some (some (if negative then -n else n), rest)
      else some (none, c :: rest)
  | [] => some (none, [])

/-- The numeral at the start of a text, and what follows it. -/
def scan? (cs : List Char) : Option (Numeral × List Char) := do
  let (negative, cs) := match cs with
    | '-' :: rest => (true, rest)
    | cs => (false, cs)
  let (whole, cs) ← scanWhole? cs
  let (fraction, cs) ← scanFraction? cs
  let (exponent, cs) ← scanExponent? cs
  some (⟨negative, whole, fraction, exponent⟩, cs)

/-!
A numeral without point and exponent stands for a 64-bit integer when it fits.
Everything else is read in double precision: as many leading digits as fit 64
bits make the significand, and one multiplication or division by a power of ten
gives the value.  A digit in front of the point that no longer fits still
counts as a place.
-/

/-- One more than the largest unsigned integer of 64 bits. -/
def wordLimit : Nat := Nat.pow 2 64

/-- The significand of the whole part, and the number of places it leaves out. -/
def wholeSignificand (significand : Nat) : List Char → Nat × Int
  | [] => (significand, 0)
  | d :: rest =>
      let next := significand * 10 + (d.toNat - '0'.toNat)
      if next < wordLimit then wholeSignificand next rest
      else (significand, (rest.length + 1 : Nat))

/-- Extend a significand by the places behind the point, as long as they fit. -/
def fractionSignificand (significand : Nat) (exponent : Int) : List Char → Nat × Int
  | [] => (significand, exponent)
  | d :: rest =>
      let next := significand * 10 + (d.toNat - '0'.toNat)
      if next < wordLimit then fractionSignificand next (exponent - 1) rest
      else (significand, exponent)

/-- The power of ten, correctly rounded. -/
def tenTo (k : Nat) : Float := Float.ofScientific 1 false k

/-- `x * 10 ^ exponent`, `none` beyond the largest double.  Exponents below the
range of doubles are reached by several divisions. -/
def scale? (x : Float) (exponent : Int) : Option Float :=
  if exponent.natAbs ≤ 308 then
    if 0 ≤ exponent then
      let y := x * tenTo exponent.natAbs
      if y.isInf then none else some y
    else some (x / tenTo exponent.natAbs)
  else if x == 0.0 then some x
  else if 0 ≤ exponent then none
  else scale? (x / tenTo 308) (exponent + 308)
termination_by exponent.natAbs
decreasing_by omega

/-- The numeral in double precision. -/
def realReading (n : Numeral) : Reading :=
  let (significand, places) := wholeSignificand 0 n.whole
  let (significand, places) := fractionSignificand significand places (n.fraction.getD [])
  match scale? (UInt64.ofNat significand).toFloat (places + n.exponent.getD 0) with
  | some x => .real (if n.negative then -x else x)
  | none => .outOfRange

/-- What the numeral stands for.  Minus zero has no integer to stand for. -/
def reading (n : Numeral) : Reading :=
  match n.fraction, n.exponent with
  | none, none =>
      let value := natOfDigits n.whole
      if n.negative then
        if value ≠ 0 ∧ value ≤ Nat.pow 2 63 then .integer (-(value : Int)) else n.realReading
      else if value < wordLimit then .integer value
      else n.realReading
  | _, _ => n.realReading

end Numeral

end Beamwalk
