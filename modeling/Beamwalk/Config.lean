/-
Module: Beamwalk.Config
Purpose: What users can set: key bindings and the pace of the animation.
Main exports: KeyBindings, PlayerSettings, Config
-/

namespace Beamwalk

/-- The binding of every action. -/
structure KeyBindings where
  insertAdvance : String := "f"
  insertTurnLeft : String := "l"
  insertTurnRight : String := "r"
  insertUTurn : String := "u"
  insertJump : String := "j"
  insertLoop : String := "["
  insertLoopEnd : String := "]"
  delete : String := "d"
  clear : String := "Ctrl-x"
  moveUp : String := "Up"
  moveDown : String := "Down"
  run : String := "F5"
  save : String := "Ctrl-s"
  quit : String := "q"
  confirm : String := "Enter"
  cancel : String := "Esc"
  /-- Stops a running animation. -/
  stop : String := "Esc"
  /-- Plays the program again. -/
  replay : String := "r"
deriving Repr, Inhabited, DecidableEq

/-- Settings of the animation. -/
structure PlayerSettings where
  /-- The pause after each event, in milliseconds. -/
  stepDelay : Nat := 250
deriving Repr, Inhabited, DecidableEq

/-- Everything a user can set. -/
structure Config where
  keys : KeyBindings := {}
  player : PlayerSettings := {}
deriving Repr, Inhabited, DecidableEq

end Beamwalk
