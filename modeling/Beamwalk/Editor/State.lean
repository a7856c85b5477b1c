/-
Module: Beamwalk.Editor.State
Purpose: The program under the editor's hands and the edits it allows.
Main exports: Mode, EditorState, EditorState.insert, EditorState.insertLoop,
  EditorState.deleteSelected, EditorState.save
-/
import Beamwalk.Config
import Beamwalk.Storage.Documents

namespace Beamwalk

/-- What a question is about. -/
inductive Question where
  /-- Take out all commands, of which there are `count`. -/
  | clearProgram (count : Nat)
deriving Repr, Inhabited, DecidableEq

/-- The words of a question. -/
def Question.text : Question → String
  | .clearProgram count => s!"Clear all {count} commands?"

/-- What the keyboard is for at the moment. -/
inductive Mode where
  | normal
  /-- Typing the count of a new loop, with the digits typed so far. -/
  | repeatCount (digits : List Char)
  /-- Answering a question, with the number of the answer that is selected: yes is 0 and
  no is 1. -/
  | confirm (question : Question) (selected : UInt64)
deriving Repr, Inhabited, DecidableEq

/-- An editing session. -/
structure EditorState where
  level : Level
  program : Program
  /-- Where the program is saved. -/
  path : String
  /-- The index of the selected command; a new command goes right behind it. -/
  cursor : Nat
  mode : Mode
  config : Config
  /-- The program has changed since it was opened or saved. -/
  dirty : Bool
  /-- A message that stands in place of the status line. -/
  status : Option String
deriving Repr, DecidableEq

namespace EditorState

/-- A session as it is opened. -/
def ofProgram (level : Level) (program : Program) (path : String) (config : Config) :
    EditorState where
  level := level
  program := program
  path := path
  cursor := 0
  mode := .normal
  config := config
  dirty := false
  status := none

/-- Save the program: the state and the files afterwards, or the failure, which
leaves both as they are. -/
def save (s : EditorState) (files : FileTree) :
    Except StorageError (EditorState × FileTree) :=
  match saveProgram files s.path s.program with
  | .error e => .error e
  | .ok files => .ok ({ s with dirty := false, status := some "Saved" }, files)

/-- What the status line says of a failed save. -/
def saveFailed (e : StorageError) : String := "Save failed: " ++ e.summary

/-- The classes of which nothing is left are refused. -/
def isExhausted (s : EditorState) (c : CommandClass) : Bool :=
  s.program.budgetRemaining s.level.budgets c = .limited .zero

/-- The message for a refused command. -/
def noneLeft (c : CommandClass) : String := s!"No {c.label} left in this level"

/-- Where the next command goes. -/
def insertionIndex (s : EditorState) : Nat := if s.program.isEmpty then 0 else s.cursor + 1

/-- Put a command behind the selected one and select it. -/
def place (s : EditorState) (command : Command) : EditorState :=
  let index := s.insertionIndex
  let program := s.program.insert index command
  { s with
    program := program
    cursor := min index (program.size - 1)
    dirty := true
    status := none }

/-- Insert a command unless the cap on its class is used up; the answer says
whether it was inserted. -/
def insert (s : EditorState) (command : Command) : EditorState × Bool :=
  match command.class? with
  | some c =>
      if s.isExhausted c then ({ s with status := some (noneLeft c) }, false)
      else (s.place command, true)
  | none => (s.place command, true)

/-- Insert a loop together with its closer and select the opener. -/
def insertLoop (s : EditorState) (count : Count) : EditorState × Bool :=
  match s.insert (.loopStart count) with
  | (s, false) => (s, false)
  | (s, true) => ({ s with program := s.program.insert (s.cursor + 1) .loopEnd }, true)

/-- Take out the selected command. -/
def deleteSelected (s : EditorState) : EditorState × Option Command :=
  match s.program.remove s.cursor with
  | (_, none) => (s, none)
  | (program, some command) =>
      ({ s with
          program := program
          cursor := min s.cursor (program.size - 1)
          dirty := true },
        some command)

/-- Take out all commands. -/
def clear (s : EditorState) : EditorState :=
  { s with program := s.program.clear, cursor := 0, dirty := true }

/-- Select the command `delta` places further down, as far as there is one. -/
def moveCursor (s : EditorState) (delta : Int) : EditorState :=
  { s with cursor := min ((s.cursor : Int) + delta).toNat (s.program.size - 1) }

/-- What is left of every cap. -/
def budgetSummary (s : EditorState) : String :=
  String.intercalate "  " (CommandClass.all.map fun c =>
    s!"{c.label} left: {(s.program.budgetRemaining s.level.budgets c).text}")

end EditorState

end Beamwalk
