/-
Module: Beamwalk.Editor.Input
Purpose: What keys do in the editor.
Main exports: Action, EditorState.handleKey, TerminalEvent, EditorState.handleEvent
-/
import Beamwalk.Editor.State
import Beamwalk.Keyboard.Binding

namespace Beamwalk

/-- What is to be done after an event has been handled. -/
inductive Action where
  | nothing
  | redraw
  | run
  | quit
  | toggleFullscreen
deriving Repr, Inhabited, DecidableEq

/-- Something that the terminal reports. -/
inductive TerminalEvent where
  | key (key : Key)
  | resize (width height : UInt16)
  | paste (text : String)
  | focus
deriving Repr, Inhabited, DecidableEq

/-- The state after an event, what to do next, and the files. -/
structure Handled where
  state : EditorState
  action : Action
  files : FileTree
deriving Repr, DecidableEq

namespace EditorState

/-- The commands with a key of their own. -/
def commandKeys (keys : KeyBindings) : List (String × Command) :=
  [(keys.insertAdvance, .advance), (keys.insertTurnLeft, .turnLeft),
    (keys.insertTurnRight, .turnRight), (keys.insertUTurn, .uTurn), (keys.insertJump, .jump),
    (keys.insertLoopEnd, .loopEnd)]

/-- The command that a key inserts. -/
def commandOfKey? (keys : KeyBindings) (key : Key) : Option Command :=
  ((commandKeys keys).find? fun entry => matchesBinding entry.1 key).map Prod.snd

/-- The save key. -/
def trySave (s : EditorState) (files : FileTree) : EditorState × FileTree :=
  match s.save files with
  | .ok (s, files) => (s, files)
  | .error e => ({ s with status := some (saveFailed e) }, files)

/-- The delete key: a deletion clears the status line. -/
def deleteKey (s : EditorState) : EditorState :=
  match s.deleteSelected with
  | (s, some _) => { s with status := none }
  | (s, none) => s

/-- The clear key asks first, unless there is nothing to clear. -/
def clearKey (s : EditorState) : EditorState :=
  if s.program.isEmpty then s
  else { s with mode := .confirm (.clearProgram s.program.size) 1 }

/-- A key while no prompt is open.  Where a key answers to several bindings,
the first in this order counts. -/
def handleNormal (s : EditorState) (files : FileTree) (key : Key) : Handled :=
  let keys := s.config.keys
  if matchesBinding keys.quit key then ⟨s, .quit, files⟩
  else if matchesBinding keys.run key then ⟨s, .run, files⟩
  else if matchesBinding keys.moveUp key then ⟨s.moveCursor (-1), .redraw, files⟩
  else if matchesBinding keys.moveDown key then ⟨s.moveCursor 1, .redraw, files⟩
  else if matchesBinding keys.save key then
    let (s, files) := s.trySave files
    ⟨s, .redraw, files⟩
  else if matchesBinding keys.delete key then ⟨s.deleteKey, .redraw, files⟩
  else if matchesBinding keys.clear key then ⟨s.clearKey, .redraw, files⟩
  else if matchesBinding keys.insertLoop key then
    ⟨{ s with mode := .repeatCount [], status := none }, .redraw, files⟩
  else
    match commandOfKey? keys key with
    | some command => ⟨(s.insert command).1, .redraw, files⟩
    | none => ⟨s, .nothing, files⟩

/-- The most digits that a count may have. -/
def maxCountDigits : Nat := 4

/-- Confirm the count of a loop. -/
def confirmCount (s : EditorState) (digits : List Char) : EditorState :=
  match (Text.parseNat? Count.limit digits).bind Count.ofNat? with
  | some count => ({ s with mode := .normal }.insertLoop count).1
  | none => { s with status := some "Enter a repeat count" }

/-- A key while the count of a loop is typed. -/
def handleRepeatCount (s : EditorState) (digits : List Char) (key : Key) :
    EditorState × Action :=
  let keys := s.config.keys
  if matchesBinding keys.cancel key then ({ s with mode := .normal }, .redraw)
  else if matchesBinding keys.confirm key then (s.confirmCount digits, .redraw)
  else
    match key.code with
    | .char c =>
        if c.isDigit && digits.length < maxCountDigits then
          ({ s with mode := .repeatCount (digits ++ [c]) }, .redraw)
        else (s, .nothing)
    | .backspace => ({ s with mode := .repeatCount digits.dropLast }, .redraw)
    | _ => (s, .nothing)

/-- Do what was confirmed. -/
def carryOut (s : EditorState) : Question → EditorState
  | .clearProgram _ => { s.clear with status := some "Program cleared" }

/-- A key while a question is open.  The other answer is found by subtraction, which wraps
below zero. -/
def handleConfirm (s : EditorState) (question : Question) (selected : UInt64) (key : Key) :
    EditorState × Action :=
  if matchesBinding s.config.keys.cancel key then ({ s with mode := .normal }, .redraw)
  else
    match key.code with
    | .up | .down | .left | .right | .tab =>
        ({ s with mode := .confirm question (1 - selected) }, .redraw)
    | .enter =>
        let answered := if selected = 0 then s.carryOut question else s
        ({ answered with mode := .normal }, .redraw)
    | _ => (s, .nothing)

/-- A key.  The key for the full screen works in every mode, whatever it is
bound to. -/
def handleKey (s : EditorState) (files : FileTree) (key : Key) : Handled :=
  if key.code = .function 11 then ⟨s, .toggleFullscreen, files⟩
  else
    match s.mode with
    | .normal => s.handleNormal files key
    | .repeatCount digits =>
        let (s, action) := s.handleRepeatCount digits key
        ⟨s, action, files⟩
    | .confirm question selected =>
        let (s, action) := s.handleConfirm question selected key
        ⟨s, action, files⟩

/-- An event of the terminal. -/
def handleEvent (s : EditorState) (files : FileTree) : TerminalEvent → Handled
  | .key key => s.handleKey files key
  | .resize _ _ => ⟨s, .redraw, files⟩
  | .paste _ | .focus => ⟨s, .nothing, files⟩

end EditorState

end Beamwalk
