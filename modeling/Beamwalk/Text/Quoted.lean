/-
Module: Beamwalk.Text.Quoted
Purpose: Characters and texts in quotes, as messages show them.
Main exports: Text.quoteChar, Text.quote
-/
import Beamwalk.Text.Printable
import Beamwalk.Text.Extending

namespace Beamwalk.Text

/-!
A quoted piece of text never contains its own quote, a line break or a
character that could not be told from its neighbours: those are escaped.  The
other quote needs no escape and gets none.
-/

/-- The digits of a number in base sixteen, in small letters. -/
def hex (n : Nat) : String := String.ofList (Nat.toDigits 16 n)

/-- One character inside quotes of the given kind. -/
def escapeIn (quote : Char) (c : Char) : String :=
  if c = '\x00' then "\\0"
  else if c = '\t' then "\\t"
  else if c = '\r' then "\\r"
  else if c = '\n' then "\\n"
  else if c = '\\' || c = quote then "\\" ++ c.toString
  else if isExtending c || !isPrintable c then "\\u\x7b" ++ hex c.toNat ++ "\x7d"
  else c.toString

/-- The apostrophe, the quote around single characters. -/
def apostrophe : Char := '\x27'

/-- A character in single quotes. -/
def quoteChar (c : Char) : String :=
  apostrophe.toString ++ escapeIn apostrophe c ++ apostrophe.toString

/-- A text in double quotes. -/
def quote (s : String) : String :=
  "\"" ++ String.join (s.toList.map (escapeIn '"')) ++ "\""

end Beamwalk.Text
