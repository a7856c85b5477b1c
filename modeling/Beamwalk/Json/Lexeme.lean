/-
Module: Beamwalk.Json.Lexeme
Purpose: Blanks and strings of a JSON text.
Main exports: Json.skipBlanks, Json.scanUnits?, Json.joinUnits?
-/

namespace Beamwalk.Json

/-- The four blanks that may stand between tokens. -/
def isBlank (c : Char) : Bool := c = ' ' || c = '\n' || c = '\t' || c = '\r'

/-- What is left of a text after its leading blanks. -/
def skipBlanks (cs : List Char) : List Char := cs.dropWhile isBlank

/-- The value of a digit in base sixteen. -/
def hexValue? (c : Char) : Option Nat :=
  if '0' ≤ c ∧ c ≤ '9' then some (c.toNat - '0'.toNat)
  else if 'a' ≤ c ∧ c ≤ 'f' then some (c.toNat - 'a'.toNat + 10)
  else if 'A' ≤ c ∧ c ≤ 'F' then some (c.toNat - 'A'.toNat + 10)
  else none

/-- The number of four digits in base sixteen. -/
def hexQuad? (a b c d : Char) : Option Nat := do
  let a ← hexValue? a
  let b ← hexValue? b
  let c ← hexValue? c
  let d ← hexValue? d
  some (((a * 16 + b) * 16 + c) * 16 + d)

/-- The character that a letter after a backslash stands for. -/
def escaped? : Char → Option Char
  | '"' => some '"'
  | '\\' => some '\\'
  | '/' => some '/'
  | 'b' => some '\x08'
  | 'f' => some '\x0c'
  | 'n' => some '\n'
  | 'r' => some '\r'
  | 't' => some '\t'
  | _ => none

/-!
A string is scanned to numbers first.  A character that is written as itself
gives its code point; a numeric escape gives the sixteen bits it spells, which
may be half of a surrogate pair.  Joining the pairs is a second step, because a
reader that only passes over a string does not care for it.
-/

/-- The code units of a string up to its closing quote, and what follows. -/
def scanUnits? : List Char → Option (List Nat × List Char)
  | '"' :: rest => some ([], rest)
  | '\\' :: 'u' :: a :: b :: c :: d :: rest => do
      let unit ← hexQuad? a b c d
      let (units, rest) ← scanUnits? rest
      some (unit :: units, rest)
  | '\\' :: letter :: rest => do
      let c ← escaped? letter
      let (units, rest) ← scanUnits? rest
      some (c.toNat :: units, rest)
  | c :: rest => do
      if c = '\\' || c.toNat < 0x20 then none
      let (units, rest) ← scanUnits? rest
      some (c.toNat :: units, rest)
  | [] => none

/-- The first half of a surrogate pair. -/
def isHighSurrogate (unit : Nat) : Bool := 0xd800 ≤ unit && unit ≤ 0xdbff

/-- The second half of a surrogate pair. -/
def isLowSurrogate (unit : Nat) : Bool := 0xdc00 ≤ unit && unit ≤ 0xdfff

/-- The characters of a sequence of code units, `none` if half a surrogate pair
stands alone. -/
def joinUnits? : List Nat → Option (List Char)
  | [] => some []
  | [unit] =>
      if isHighSurrogate unit || isLowSurrogate unit then none else some [Char.ofNat unit]
  | unit :: low :: rest =>
      if isHighSurrogate unit then
        if isLowSurrogate low then
          (joinUnits? rest).map
            (Char.ofNat ((unit - 0xd800) * 0x400 + (low - 0xdc00) + 0x10000) :: ·)
        else none
      else if isLowSurrogate unit then none
      else (joinUnits? (low :: rest)).map (Char.ofNat unit :: ·)

end Beamwalk.Json
