/-
Module: Beamwalk.Decimal.Shortest
Purpose: The shortest decimal that a binary floating point number can be told by.
Main exports: Decimal, Decimal.shortest?, Decimal.Layout, Decimal.Layout.text, Decimal.floatText
-/

namespace Beamwalk

/-- The number `digits * 10 ^ exponent`. -/
structure Decimal where
  digits : Nat
  exponent : Int
deriving Repr, Inhabited, DecidableEq

namespace Decimal

/-!
A positive double is `m * 2 ^ q`.  Every real number nearer to it than to its
neighbours is rounded to it; the two end points of that interval are too when
`m` is even.  The grid of decimals with one digit is searched first, then that
with two, and so on.  On each grid only the two points next to the number can
lie in the interval if any does; of two hits the nearer one is taken, and of
two equally near ones the even one.  Seventeen digits always suffice.
-/

/-- A non-negative fraction. -/
structure Ratio where
  num : Nat
  den : Nat
deriving Repr, Inhabited, DecidableEq

namespace Ratio

/-- `n * 2 ^ q`. -/
def ofBinary (n : Nat) (q : Int) : Ratio :=
  if q < 0 then ⟨n, Nat.pow 2 q.natAbs⟩ else ⟨n * Nat.pow 2 q.natAbs, 1⟩

/-- `n * 10 ^ e`. -/
def ofDecimal (n : Nat) (e : Int) : Ratio :=
  if e < 0 then ⟨n, Nat.pow 10 e.natAbs⟩ else ⟨n * Nat.pow 10 e.natAbs, 1⟩

/-- Strictly smaller. -/
def lt (a b : Ratio) : Bool := a.num * b.den < b.num * a.den

/-- Smaller or equal. -/
def le (a b : Ratio) : Bool := a.num * b.den ≤ b.num * a.den

/-- The quotient, rounded down. -/
def floorDiv (a b : Ratio) : Nat := (a.num * b.den) / (a.den * b.num)

end Ratio

/-- A positive double with the interval of numbers that are rounded to it. -/
structure Interval where
  value : Ratio
  lower : Ratio
  upper : Ratio
  /-- The end points belong to the interval. -/
  closed : Bool
deriving Repr, Inhabited, DecidableEq

namespace Interval

/-- The interval of `m * 2 ^ q`.  Below a power of two the spacing of doubles
halves, except where the spacing is already the least there is. -/
def ofBinary (m : Nat) (q : Int) : Interval where
  value := .ofBinary (4 * m) (q - 2)
  lower := .ofBinary (if m = Nat.pow 2 52 ∧ -1074 < q then 4 * m - 1 else 4 * m - 2) (q - 2)
  upper := .ofBinary (4 * m + 2) (q - 2)
  closed := m % 2 = 0

/-- Whether a fraction lies in the interval. -/
def contains (i : Interval) (r : Ratio) : Bool :=
  if i.closed then i.lower.le r && r.le i.upper else i.lower.lt r && r.lt i.upper

/-- The point of the grid `10 ^ e` in the interval that is nearest to the value. -/
def gridPoint? (i : Interval) (e : Int) : Option Nat :=
  let below := i.value.floorDiv (.ofDecimal 1 e)
  let half : Ratio :=
    let twice := Ratio.ofDecimal (2 * below + 1) e
    ⟨twice.num, 2 * twice.den⟩
  match i.contains (.ofDecimal below e), i.contains (.ofDecimal (below + 1) e) with
  | true, false => some below
  | false, true => some (below + 1)
  | false, false => none
  | true, true =>
      if i.value.lt half then some below
      else if half.lt i.value then some (below + 1)
      else if below % 2 = 0 then some below
      else some (below + 1)

end Interval

/-- The exponent of the leading digit: the last `k` of a run of exponents,
starting at `k`, for which `10 ^ k` does not exceed the value. -/
def leadingExponent (value : Ratio) : (steps : Nat) → (k : Int) → Int
  | 0, k => k
  | steps + 1, k =>
      if (Ratio.ofDecimal 1 (k + 1)).le value then leadingExponent value steps (k + 1) else k

/-- Strip trailing zeros. -/
def normal : (steps : Nat) → Decimal → Decimal
  | 0, d => d
  | steps + 1, d =>
      if d.digits % 10 = 0 ∧ d.digits ≠ 0 then normal steps ⟨d.digits / 10, d.exponent + 1⟩ else d

/-- Search the grids with `tried + 1`, `tried + 2`, … digits, `left` of them. -/
def search (i : Interval) (leading : Int) : (left : Nat) → (tried : Nat) → Option Decimal
  | 0, _ => none
  | left + 1, tried =>
      let e := leading - tried
      match i.gridPoint? e with
      | some digits => some (normal 20 ⟨digits, e⟩)
      | none => search i leading left (tried + 1)

/-- The shortest decimal in the interval, the nearest to the value among those. -/
def shortest? (i : Interval) : Option Decimal :=
  search i (leadingExponent i.value 640 (-330)) 17 0

/-- Which decimals are written without an exponent: those whose leading digit
has an exponent from `least` to `greatest`. -/
structure Layout where
  least : Int
  greatest : Int
deriving Repr, Inhabited, DecidableEq

namespace Layout

/-- The digits of a natural number. -/
def digitChars (n : Nat) : List Char := Nat.toDigits 10 n

/-- A decimal in the layout.  There is always a digit after the point in
positional notation, and always a sign in front of an exponent. -/
def text (layout : Layout) (d : Decimal) : String :=
  let ds := digitChars d.digits
  let leading : Int := d.exponent + (ds.length - 1 : Nat)
  if layout.least ≤ leading ∧ leading ≤ layout.greatest then
    if 0 ≤ d.exponent then String.ofList (ds ++ List.replicate d.exponent.toNat '0' ++ ['.', '0'])
    else if 0 ≤ leading then
      String.ofList (ds.take (leading.toNat + 1) ++ '.' :: ds.drop (leading.toNat + 1))
    else
      String.ofList ('0' :: '.' :: List.replicate ((-leading).toNat - 1) '0' ++ ds)
  else
    let mantissa := match ds with
      | [] => []
      | [digit] => [digit]
      | digit :: rest => digit :: '.' :: rest
    let sign := if leading < 0 then '-' else '+'
    String.ofList (mantissa ++ 'e' :: sign :: digitChars leading.natAbs)

end Layout

/-- Numbers in messages: positional from five places after the point up to
sixteen before it. -/
def messageLayout : Layout := ⟨-5, 15⟩

/-- The text of a double, by its sign, exponent and fraction fields. -/
def bitsText (layout : Layout) (bits : Nat) : String :=
  let sign := if bits / Nat.pow 2 63 % 2 = 1 then "-" else ""
  let field : Nat := bits / Nat.pow 2 52 % Nat.pow 2 11
  let fraction := bits % Nat.pow 2 52
  if field = 2047 then if fraction = 0 then sign ++ "inf" else "NaN"
  else if field = 0 ∧ fraction = 0 then sign ++ "0.0"
  else
    let i := if field = 0 then Interval.ofBinary fraction (-1074)
      else Interval.ofBinary (Nat.pow 2 52 + fraction) ((field : Int) - 1075)
    sign ++ ((shortest? i).map layout.text).getD ""

/-- The text of a double in messages. -/
def floatText (x : Float) : String := bitsText messageLayout x.toBits.toNat

end Decimal

end Beamwalk
