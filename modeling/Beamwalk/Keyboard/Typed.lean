/-
Module: Beamwalk.Keyboard.Typed
Purpose: Keys from the characters that a terminal sends for them.
Main exports: Key.ofChar, Key.sequences, Key.ofTyped
-/
import Beamwalk.Keyboard.Key

namespace Beamwalk.Key

/-!
Most keys send one character.  The others send an escape character and a few
more, by which they are told apart from the escape key itself; a key held with
alt sends an escape character in front of its own.
-/

/-- The key that sends one character.  The control characters are those of the
letters, save for the few that have a key of their own. -/
def ofChar (c : Char) : Key :=
  if c = '\r' ∨ c = '\n' then ⟨.enter, {}⟩
  else if c = '\t' then ⟨.tab, {}⟩
  else if c = '\x1b' then ⟨.escape, {}⟩
  else if c = '\x7f' then ⟨.backspace, {}⟩
  else if c = '\x00' then ⟨.char ' ', { control := true }⟩
  else if c.toNat ≤ 26 then ⟨.char (Char.ofNat (c.toNat + 96)), { control := true }⟩
  else ⟨.char c, {}⟩

/-- What follows the escape character for the keys that send several. -/
def sequences : List (List Char × KeyCode) :=
  [("[A", .up), ("[B", .down), ("[C", .right), ("[D", .left), ("[H", .home), ("[F", .endKey),
    ("[Z", .backTab), ("[1~", .home), ("[2~", .insert), ("[3~", .delete), ("[4~", .endKey),
    ("[5~", .pageUp), ("[6~", .pageDown), ("OP", .function 1), ("OQ", .function 2),
    ("OR", .function 3), ("OS", .function 4), ("[15~", .function 5), ("[17~", .function 6),
    ("[18~", .function 7), ("[19~", .function 8), ("[20~", .function 9), ("[21~", .function 10),
    ("[23~", .function 11), ("[24~", .function 12)].map fun entry => (entry.1.toList, entry.2)

/-- The key that starts with a character, and how many of the characters behind
it belong to it as well. -/
def starting (c : Char) (behind : List Char) : Key × Nat :=
  if c = '\x1b' then
    match sequences.find? fun entry => entry.1.isPrefixOf behind with
    | some (sequence, code) => (⟨code, {}⟩, sequence.length)
    | none =>
        match behind with
        | [] => (ofChar c, 0)
        | d :: _ =>
            let key := ofChar d
            (⟨key.code, { key.modifiers with alt := true }⟩, 1)
  else (ofChar c, 0)

/-- Read keys behind `skip` characters that belong to an earlier one. -/
def typedAfter : (skip : Nat) → List Char → List Key
  | _, [] => []
  | skip + 1, _ :: cs => typedAfter skip cs
  | 0, c :: cs =>
      let (key, taken) := starting c cs
      key :: typedAfter taken cs

/-- The keys that send the characters of a text. -/
def ofTyped (text : String) : List Key := typedAfter 0 text.toList

end Beamwalk.Key
