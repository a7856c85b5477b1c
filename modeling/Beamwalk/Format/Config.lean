/-
Module: Beamwalk.Format.Config
Purpose: The settings of users as JSON.
Main exports: Format.config, Format.writeConfig, Format.configOfText
-/
import Beamwalk.Config
import Beamwalk.Json.Reader
import Beamwalk.Json.Value

namespace Beamwalk.Format

open Json (Reader)
open Json.Reader

/-!
Every setting has a default, so a text names only what it changes.
-/

/-- The bindings while they are read: the named ones, by name. -/
abbrev BindingsDraft := List (String × String)

/-- The field of one binding. -/
def bindingSlot (name : String) : Slot BindingsDraft :=
  slot name false string (·.lookup name) fun draft value => (name, value) :: draft

/-- The names of the bindings. -/
def bindingNames : List String :=
  ["insert_advance", "insert_turn_left", "insert_turn_right", "insert_u_turn", "insert_jump",
    "insert_loop", "insert_loop_end", "delete", "clear", "move_up", "move_down", "run", "save",
    "quit", "confirm", "cancel", "stop", "replay"]

/-- The bindings with defaults for those that were not named. -/
def finishBindings (draft : BindingsDraft) : KeyBindings :=
  let standard : KeyBindings := {}
  { insertAdvance := (draft.lookup "insert_advance").getD standard.insertAdvance
    insertTurnLeft := (draft.lookup "insert_turn_left").getD standard.insertTurnLeft
    insertTurnRight := (draft.lookup "insert_turn_right").getD standard.insertTurnRight
    insertUTurn := (draft.lookup "insert_u_turn").getD standard.insertUTurn
    insertJump := (draft.lookup "insert_jump").getD standard.insertJump
    insertLoop := (draft.lookup "insert_loop").getD standard.insertLoop
    insertLoopEnd := (draft.lookup "insert_loop_end").getD standard.insertLoopEnd
    delete := (draft.lookup "delete").getD standard.delete
    clear := (draft.lookup "clear").getD standard.clear
    moveUp := (draft.lookup "move_up").getD standard.moveUp
    moveDown := (draft.lookup "move_down").getD standard.moveDown
    run := (draft.lookup "run").getD standard.run
    save := (draft.lookup "save").getD standard.save
    quit := (draft.lookup "quit").getD standard.quit
    confirm := (draft.lookup "confirm").getD standard.confirm
    cancel := (draft.lookup "cancel").getD standard.cancel
    stop := (draft.lookup "stop").getD standard.stop
    replay := (draft.lookup "replay").getD standard.replay }

/-- Read the bindings. -/
def keyBindings : Reader KeyBindings :=
  record "struct KeyBindings" (bindingNames.map bindingSlot) [] fun draft =>
    .ok (finishBindings draft)

/-- The bindings, all of them. -/
def writeKeyBindings (k : KeyBindings) : Json :=
  .object (bindingNames.zip [
    .string k.insertAdvance, .string k.insertTurnLeft, .string k.insertTurnRight,
    .string k.insertUTurn, .string k.insertJump, .string k.insertLoop, .string k.insertLoopEnd,
    .string k.delete, .string k.clear, .string k.moveUp, .string k.moveDown, .string k.run,
    .string k.save, .string k.quit, .string k.confirm, .string k.cancel, .string k.stop,
    .string k.replay])

/-- Read the settings of the animation. -/
def playerSettings : Reader PlayerSettings :=
  record "struct PlayerConfig"
    [slot "step_delay_ms" false word64 id fun _ value => some value] none
    fun draft => .ok { stepDelay := draft.getD 250 }

/-- The settings of the animation. -/
def writePlayerSettings (p : PlayerSettings) : Json :=
  .object [("step_delay_ms", .nat p.stepDelay)]

/-- The settings while they are read. -/
structure ConfigDraft where
  keys : Option KeyBindings := none
  player : Option PlayerSettings := none
deriving Repr, Inhabited, DecidableEq

/-- Read the settings. -/
def config : Reader Config :=
  record "struct Config" [
      slot "key_bindings" false keyBindings (·.keys)
        fun draft value => { draft with keys := some value },
      slot "player" false playerSettings (·.player)
        fun draft value => { draft with player := some value }] ({} : ConfigDraft)
    fun draft => .ok ⟨draft.keys.getD {}, draft.player.getD {}⟩

/-- The settings, all of them. -/
def writeConfig (c : Config) : Json :=
  .object [("key_bindings", writeKeyBindings c.keys), ("player", writePlayerSettings c.player)]

/-- The settings of a text.  No text and an unreadable one mean the defaults. -/
def configOfText (text : Option String) : Config :=
  match text with
  | none => {}
  | some text =>
      match readText config text with
      | .ok c => c
      | .error _ => {}

end Beamwalk.Format
