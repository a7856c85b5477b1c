/-
Module: Beamwalk.Keyboard.Key
Purpose: Keys as a terminal reports them.
Main exports: KeyCode, Modifiers, Key
-/

namespace Beamwalk

/-- What a key stands for, modifiers aside. -/
inductive KeyCode where
  | char (c : Char)
  /-- A function key. -/
  | function (number : UInt8)
  | up
  | down
  | left
  | right
  | enter
  | escape
  | tab
  | backTab
  | backspace
  | delete
  | insert
  | home
  | endKey
  | pageUp
  | pageDown
  | null
  /-- A key that only some terminals report: a lock, a media key, or a modifier by itself. -/
  | other (number : Nat)
deriving Repr, Inhabited, DecidableEq

/-- The modifiers that are held down. -/
structure Modifiers where
  control : Bool := false
  alt : Bool := false
  shift : Bool := false
  super : Bool := false
  hyper : Bool := false
  metaKey : Bool := false
deriving Repr, Inhabited, DecidableEq

/-- One key press. -/
structure Key where
  code : KeyCode
  modifiers : Modifiers := {}
deriving Repr, Inhabited, DecidableEq

end Beamwalk
