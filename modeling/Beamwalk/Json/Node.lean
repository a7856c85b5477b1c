/-
Module: Beamwalk.Json.Node
Purpose: What a JSON text says, as far as it can be understood.
Main exports: Node, Node.ofText
-/
import Beamwalk.Json.Lexeme
import Beamwalk.Json.Numeral

namespace Beamwalk

/-!
A reader of JSON stops at the first thing it cannot use, be it a token that is
no JSON or a value of the wrong shape, whichever comes first.  A text is
therefore not refused as a whole when its grammar breaks somewhere: everything
in front of the break is kept as a tree, and the break is a leaf of it.  Behind
a break there is nothing.
-/

/-- A value of a JSON text, up to the place where its grammar breaks. -/
inductive Node where
  | null
  | bool (value : Bool)
  | number (numeral : Numeral)
  /-- A string; `none` if its escapes spell half a surrogate pair. -/
  | string (text : Option String)
  /-- The items of an array, and whether the array comes to its end. -/
  | array (items : List Node) (closed : Bool)
  /-- The fields of an object in order, and whether the object comes to its
  end. -/
  | object (fields : List (Option String × Node)) (closed : Bool)
  /-- An object that opens with something other than a string where its first
  key should stand. -/
  | misKeyed
  /-- The grammar breaks here. -/
  | broken
deriving Repr, Inhabited

namespace Node

open Json

/-- A string token to its text. -/
def textOfUnits (units : List Nat) : Option String := (joinUnits? units).map String.ofList

mutual

/-- The value at the start of a text, and what follows it.  Every bracket and
every item uses up some of the fuel. -/
def scan : (fuel : Nat) → List Char → Node × List Char
  | 0, _ => (.broken, [])
  | fuel + 1, cs =>
      match skipBlanks cs with
      | 'n' :: 'u' :: 'l' :: 'l' :: rest => (.null, rest)
      | 't' :: 'r' :: 'u' :: 'e' :: rest => (.bool true, rest)
      | 'f' :: 'a' :: 'l' :: 's' :: 'e' :: rest => (.bool false, rest)
      | '"' :: rest =>
          match scanUnits? rest with
          | some (units, rest) => (.string (textOfUnits units), rest)
          | none => (.broken, [])
      | '[' :: rest =>
          match skipBlanks rest with
          | ']' :: rest => (.array [] true, rest)
          | rest =>
              let (items, closed, rest) := scanItems fuel rest
              (.array items closed, rest)
      | '\x7b' :: rest =>
          match skipBlanks rest with
          | '\x7d' :: rest => (.object [] true, rest)
          | '"' :: rest =>
              let (fields, closed, rest) := scanFields fuel ('"' :: rest)
              (.object fields closed, rest)
          | _ => (.misKeyed, [])
      | rest =>
          match Numeral.scan? rest with
          | some (numeral, rest) => (.number numeral, rest)
          | none => (.broken, [])

/-- At least one item, up to the end of the array. -/
def scanItems : (fuel : Nat) → List Char → List Node × Bool × List Char
  | 0, _ => ([], false, [])
  | fuel + 1, cs =>
      let (item, rest) := scan fuel cs
      match skipBlanks rest with
      | ',' :: rest =>
          let (items, closed, rest) := scanItems fuel rest
          (item :: items, closed, rest)
      | ']' :: rest => ([item], true, rest)
      | _ => ([item], false, [])

/-- At least one field, up to the end of the object. -/
def scanFields : (fuel : Nat) → List Char → List (Option String × Node) × Bool × List Char
  | 0, _ => ([], false, [])
  | fuel + 1, cs =>
      match skipBlanks cs with
      | '"' :: rest =>
          match scanUnits? rest with
          | none => ([], false, [])
          | some (units, rest) =>
              let key := textOfUnits units
              match skipBlanks rest with
              | ':' :: rest =>
                  let (value, rest) := scan fuel rest
                  match skipBlanks rest with
                  | ',' :: rest =>
                      let (fields, closed, rest) := scanFields fuel rest
                      ((key, value) :: fields, closed, rest)
                  | '\x7d' :: rest => ([(key, value)], true, rest)
                  | _ => ([(key, value)], false, [])
              | _ => ([(key, .broken)], false, [])
      | _ => ([], false, [])

end

/-- The value of a text, and whether nothing but blanks follows it. -/
def ofChars (cs : List Char) : Node × Bool :=
  let (node, rest) := scan (2 * cs.length + 2) cs
  (node, (skipBlanks rest).isEmpty)

/-- The value of a text, and whether nothing but blanks follows it. -/
def ofText (text : String) : Node × Bool := ofChars text.toList

end Node

end Beamwalk
