/-
Module: Beamwalk.Keyboard.Binding
Purpose: Key bindings as users write them.
Main exports: Chord, Chord.ofBinding?, matchesBinding
-/
import Beamwalk.Keyboard.Key
import Beamwalk.Text.Number

namespace Beamwalk

/-!
A binding names one key and at most one modifier, as in `q`, `F5`, `Ctrl-s` or
`Alt-Enter`.  Only control and alt are told apart: a terminal folds shift into
the character, and a plain binding must not answer to a key held with control
or alt.
-/

/-- The modifier that a binding asks for. -/
inductive Held where
  | nothing
  | control
  | alt
deriving Repr, Inhabited, DecidableEq

namespace Held

/-- The modifiers match: exactly the wanted one of control and alt is down. -/
def agrees (held : Held) (m : Modifiers) : Bool :=
  match held with
  | .nothing => !m.control && !m.alt
  | .control => m.control && !m.alt
  | .alt => !m.control && m.alt

end Held

/-- The key and the modifier that a binding names. -/
structure Chord where
  held : Held
  code : KeyCode
deriving Repr, Inhabited, DecidableEq

namespace Chord

/-- The keys with a name of their own. -/
def namedKeys : List (String × KeyCode) :=
  [("Right", .right), ("Left", .left), ("Up", .up), ("Down", .down), ("Enter", .enter),
    ("Esc", .escape), ("Space", .char ' '), ("Tab", .tab), ("Backspace", .backspace),
    ("Delete", .delete), ("Home", .home), ("End", .endKey)]

/-- The number of a function key: the letter and a number of one byte. -/
def functionNumber? : List Char → Option UInt8
  | 'F' :: digits => (Text.parseNat? 256 digits).map UInt8.ofNat
  | _ => none

/-- The key that a name stands for.  A name that is neither in the table nor a
function key stands for its only character. -/
def keyOfName? (cs : List Char) : Option KeyCode :=
  match namedKeys.lookup (String.ofList cs) with
  | some code => some code
  | none =>
      match functionNumber? cs with
      | some number => some (.function number)
      | none =>
          match cs with
          | [c] => some (.char c)
          | _ => none

/-- Part a binding into the modifier and the name of the key. -/
def splitHeld : List Char → Held × List Char
  | 'C' :: 't' :: 'r' :: 'l' :: '-' :: rest => (.control, rest)
  | 'A' :: 'l' :: 't' :: '-' :: rest => (.alt, rest)
  | cs => (.nothing, cs)

/-- The chord of a binding, `none` if it names no key. -/
def ofBinding? (binding : String) : Option Chord :=
  let (held, name) := splitHeld binding.toList
  (keyOfName? name).map fun code => ⟨held, code⟩

end Chord

/-- Whether a key press answers to a binding. -/
def matchesBinding (binding : String) (key : Key) : Bool :=
  match Chord.ofBinding? binding with
  | some chord => chord.held.agrees key.modifiers && chord.code = key.code
  | none => false

end Beamwalk
