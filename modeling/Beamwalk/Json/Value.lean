/-
Module: Beamwalk.Json.Value
Purpose: JSON values and their two written forms.
Main exports: Json, Json.compact, Json.pretty
-/

namespace Beamwalk

/-- A JSON value whose numbers are integers.  The fields of an object keep the
order in which they were given. -/
inductive Json where
  | null
  | bool (value : Bool)
  | int (value : Int)
  | string (value : String)
  | array (items : List Json)
  | object (fields : List (String × Json))
deriving Repr, Inhabited, BEq

namespace Json

/-- A natural number. -/
def nat (n : Nat) : Json := .int n

/-- A value or `null`. -/
def ofOption {α : Type} (f : α → Json) : Option α → Json
  | none => .null
  | some a => f a

/-- An array of strings. -/
def strings (items : List String) : Json := .array (items.map .string)

/-!
A string is written with the escapes that the format demands and no others.
Both forms are built from the end: every function takes what follows and puts
its own characters in front.
-/

/-- The digit of a number below sixteen. -/
def hexDigit (n : Nat) : Char := Nat.digitChar n

/-- One character of a string. -/
def writeChar (c : Char) (rest : List Char) : List Char :=
  if c = '"' then '\\' :: '"' :: rest
  else if c = '\\' then '\\' :: '\\' :: rest
  else if c = '\x08' then '\\' :: 'b' :: rest
  else if c = '\x0c' then '\\' :: 'f' :: rest
  else if c = '\n' then '\\' :: 'n' :: rest
  else if c = '\r' then '\\' :: 'r' :: rest
  else if c = '\t' then '\\' :: 't' :: rest
  else if c.toNat < 0x20 then
    '\\' :: 'u' :: '0' :: '0' :: hexDigit (c.toNat / 16) :: hexDigit (c.toNat % 16) :: rest
  else c :: rest

/-- The characters of a string with the closing quote. -/
def writeChars : List Char → List Char → List Char
  | [], rest => '"' :: rest
  | c :: cs, rest => writeChar c (writeChars cs rest)

/-- A string in quotes. -/
def writeString (s : String) (rest : List Char) : List Char := '"' :: writeChars s.toList rest

/-- An integer in base ten. -/
def writeInt (i : Int) (rest : List Char) : List Char :=
  if i < 0 then '-' :: (Nat.toDigits 10 i.natAbs ++ rest) else Nat.toDigits 10 i.natAbs ++ rest

mutual

/-- A value without any blank. -/
def write : Json → List Char → List Char
  | .null, rest => 'n' :: 'u' :: 'l' :: 'l' :: rest
  | .bool true, rest => 't' :: 'r' :: 'u' :: 'e' :: rest
  | .bool false, rest => 'f' :: 'a' :: 'l' :: 's' :: 'e' :: rest
  | .int i, rest => writeInt i rest
  | .string s, rest => writeString s rest
  | .array [], rest => '[' :: ']' :: rest
  | .array (item :: items), rest => '[' :: write item (writeItems items rest)
  | .object [], rest => '\x7b' :: '\x7d' :: rest
  | .object ((key, value) :: fields), rest =>
      '\x7b' :: writeString key (':' :: write value (writeFields fields rest))

/-- The further items of an array and its end. -/
def writeItems : List Json → List Char → List Char
  | [], rest => ']' :: rest
  | item :: items, rest => ',' :: write item (writeItems items rest)

/-- The further fields of an object and its end. -/
def writeFields : List (String × Json) → List Char → List Char
  | [], rest => '\x7d' :: rest
  | (key, value) :: fields, rest =>
      ',' :: writeString key (':' :: write value (writeFields fields rest))

end

/-- The compact form: no blanks. -/
def compact (j : Json) : String := String.ofList (j.write [])

/-- A line break and the indentation of a level. -/
def newline (depth : Nat) (rest : List Char) : List Char :=
  '\n' :: (List.replicate (2 * depth) ' ' ++ rest)

mutual

/-- A value that starts inside `depth` open brackets, each item and each field
on a line of its own. -/
def writePretty (depth : Nat) : Json → List Char → List Char
  | .array [], rest => '[' :: ']' :: rest
  | .array (item :: items), rest =>
      '[' :: newline (depth + 1)
        (writePretty (depth + 1) item (writePrettyItems depth items rest))
  | .object [], rest => '\x7b' :: '\x7d' :: rest
  | .object ((key, value) :: fields), rest =>
      '\x7b' :: newline (depth + 1) (writeString key (':' :: ' ' ::
        writePretty (depth + 1) value (writePrettyFields depth fields rest)))
  | .null, rest => 'n' :: 'u' :: 'l' :: 'l' :: rest
  | .bool true, rest => 't' :: 'r' :: 'u' :: 'e' :: rest
  | .bool false, rest => 'f' :: 'a' :: 'l' :: 's' :: 'e' :: rest
  | .int i, rest => writeInt i rest
  | .string s, rest => writeString s rest

/-- The further items of an array and its end. -/
def writePrettyItems (depth : Nat) : List Json → List Char → List Char
  | [], rest => newline depth (']' :: rest)
  | item :: items, rest =>
      ',' :: newline (depth + 1)
        (writePretty (depth + 1) item (writePrettyItems depth items rest))

/-- The further fields of an object and its end. -/
def writePrettyFields (depth : Nat) : List (String × Json) → List Char → List Char
  | [], rest => newline depth ('\x7d' :: rest)
  | (key, value) :: fields, rest =>
      ',' :: newline (depth + 1) (writeString key (':' :: ' ' ::
        writePretty (depth + 1) value (writePrettyFields depth fields rest)))

end

/-- The indented form: two blanks for each level. -/
def pretty (j : Json) : String := String.ofList (j.writePretty 0 [])

end Json

end Beamwalk
