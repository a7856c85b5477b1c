/-
Module: Beamwalk.Editor.Session
Purpose: The editor from the first screen to the last.
Main exports: Phase, Session, Session.ofEditor, Session.step, Session.run
-/
import Beamwalk.Editor.Input
import Beamwalk.Editor.Screen
import Beamwalk.Player.Basic

namespace Beamwalk

/-- Who reads the next key. -/
inductive Phase where
  | editing
  /-- The user wants to leave with unsaved changes and has been warned. -/
  | warned
  /-- The program is being shown. -/
  | playing (playback : Playback)
  | left
deriving Repr, DecidableEq

/-- An editing session at a terminal. -/
structure Session where
  editor : EditorState
  files : FileTree
  keys : KeyQueue
  fullscreen : Bool
  phase : Phase
deriving Repr, DecidableEq

namespace Session

/-- A session as it is opened. -/
def ofEditor (editor : EditorState) (files : FileTree) (keys : KeyQueue) : Session :=
  ⟨editor, files, keys, false, .editing⟩

/-- Draw the editor. -/
def redraw (s : Session) (size : TerminalSize) : Session × List DrawOp := (s, s.editor.draw size)

/-- Put a message into the status line. -/
def withStatus (s : Session) (status : Option String) : Session :=
  { s with editor := { s.editor with status := status } }

/-- The warning of unsaved changes. -/
def warning (keys : KeyBindings) : String :=
  "Unsaved changes! " ++ keys.quit ++ " again to quit, " ++ keys.save ++ " to save"

/-- Show the program, if its loops are balanced and the terminal is large
enough for the board. -/
def play (s : Session) (size : TerminalSize) : Session × List DrawOp :=
  let player : Player := ⟨s.editor.level, s.editor.program, s.editor.config⟩
  match s.editor.program.check with
  | .error e => (s.withStatus (some ("Cannot run: " ++ e.message))).redraw size
  | .ok () =>
      match player.misfit? size with
      | some problem => (s.withStatus (some ("Run failed: " ++ problem))).redraw size
      | none =>
          let (playback, ops, keys) := player.begin size s.keys
          ({ s with keys := keys, phase := .playing playback }, .clearAll :: ops)

/-- The quit key leaves at once if nothing would be lost, else after a
warning. -/
def quit (s : Session) (size : TerminalSize) : Session × List DrawOp :=
  if s.editor.dirty then
    { s with phase := .warned }.withStatus (some (warning s.editor.config.keys)) |>.redraw size
  else ({ s with phase := .left }, [])

/-- A key while the program is edited. -/
def editKey (s : Session) (size : TerminalSize) (key : Key) : Session × List DrawOp :=
  let handled := s.editor.handleKey s.files key
  let s := { s with editor := handled.state, files := handled.files }
  match handled.action with
  | .nothing => (s, [])
  | .redraw => s.redraw size
  | .run => s.play size
  | .toggleFullscreen =>
      let on := !s.fullscreen
      ({ s with fullscreen := on }, .fullscreen on :: s.editor.draw size)
  | .quit => s.quit size

/-- The key after the warning: quit leaves, save saves, and every other key
goes back to editing.  Whatever happened, the status line is cleared in the
end. -/
def warnedKey (s : Session) (size : TerminalSize) (key : Key) : Session × List DrawOp :=
  let keys := s.editor.config.keys
  if matchesBinding keys.quit key then ({ s with phase := .left }, [])
  else
    let s := { s with phase := .editing }
    if matchesBinding keys.save key then
      match s.editor.save s.files with
      | .ok (editor, files) =>
          let saved := { s with editor := editor, files := files }
          let cleared := saved.withStatus none
          (cleared, saved.editor.draw size ++ cleared.editor.draw size)
      | .error _ => (s.withStatus none).redraw size
    else (s.withStatus none).redraw size

/-- A key while the program is shown. -/
def playKey (s : Session) (size : TerminalSize) (playback : Playback) (key : Key) :
    Session × List DrawOp :=
  match playback.handleKey size s.keys key with
  | none => { s with phase := .editing }.redraw size
  | some (playback, ops, keys) => ({ s with keys := keys, phase := .playing playback }, ops)

/-- One key. -/
def step (s : Session) (size : TerminalSize) (key : Key) : Session × List DrawOp :=
  match s.phase with
  | .editing => s.editKey size key
  | .warned => s.warnedKey size key
  | .playing playback => s.playKey size playback key
  | .left => (s, [])

/-- Read up to `budget` keys, until the session is left or no key waits. -/
def readKeys (size : TerminalSize) : (budget : Nat) → Session → Session × List DrawOp
  | 0, s => (s, [])
  | budget + 1, s =>
      match s.phase, s.keys.waiting with
      | .left, _ | _, [] => (s, [])
      | _, key :: waiting =>
          let (s, ops) := step { s with keys := { s.keys with waiting := waiting } } size key
          let (s, rest) := readKeys size budget s
          (s, ops ++ rest)

/-- The whole session: the files it leaves and everything it draws. -/
def run (s : Session) (size : TerminalSize) : FileTree × List DrawOp :=
  let (last, ops) := readKeys size s.keys.size s
  (last.files,
    [.enterScreen, .hideCursor, .clearAll] ++ s.editor.draw size ++ ops
      ++ [.showCursor, .leaveScreen])

end Session

end Beamwalk
