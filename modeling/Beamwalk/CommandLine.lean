/-
Module: Beamwalk.CommandLine
Purpose: The commands of the program and what they answer.
Main exports: Request, Request.ofArgs, Answer, Surroundings, answer
-/
import Beamwalk.Editor.Session
import Beamwalk.Format.Config
import Beamwalk.Format.Event
import Beamwalk.Player.Session

namespace Beamwalk

/-- What the command line asks for. -/
inductive Request where
  /-- Run a program and print its events, as JSON or as sentences. -/
  | run (level program : String) (json : Bool)
  /-- Show a program as an animation. -/
  | play (level program : String)
  /-- Edit a program. -/
  | edit (level program : String)
deriving Repr, Inhabited, DecidableEq

namespace Request

/-- How to ask for a run. -/
def runUsage : String := "probot run <level.json> <program.json> [--json]"

/-- How to ask for an animation. -/
def playUsage : String := "probot play <level.json> <program.json>"

/-- How to ask for the editor. -/
def editUsage : String := "probot edit <level.json> <program.json>"

/-- How to ask for anything. -/
def usage : String :=
  "Probot — grid puzzle runner\n\nUsage:\n  " ++ runUsage ++ "\n  " ++ playUsage ++ "\n  "
    ++ editUsage

/-- The request of the arguments, or what is wrong with them.  Arguments behind
those that are needed are ignored. -/
def ofArgs : List String → Except String Request
  | "run" :: level :: program :: rest =>
      match rest with
      | [] => .ok (.run level program false)
      | "--json" :: _ => .ok (.run level program true)
      | option :: _ => .error ("Unknown option " ++ option ++ "\n\nUsage:\n  " ++ runUsage)
  | "run" :: _ => .error runUsage
  | "play" :: level :: program :: _ => .ok (.play level program)
  | "play" :: _ => .error playUsage
  | "edit" :: level :: program :: _ => .ok (.edit level program)
  | "edit" :: _ => .error editUsage
  | _ => .error usage

end Request

/-- What a command finds: files, the settings of the user, and the terminal
with its keyboard. -/
structure Surroundings where
  files : FileTree
  config : Option String
  size : TerminalSize
  keys : KeyQueue
deriving Repr, Inhabited, DecidableEq

/-- What a command does. -/
structure Answer where
  status : Nat
  /-- The lines of the standard output, the screen aside. -/
  output : List String
  /-- The text of the standard error. -/
  errors : Option String
  screen : List DrawOp
  files : FileTree
deriving Repr, Inhabited, DecidableEq

namespace Answer

/-- The exit status of a command that could not be carried out. -/
def failed : Nat := 1

/-- The exit status of a program that ran without solving its level. -/
def unsolved : Nat := 2

/-- A command that could not be carried out. -/
def failure (files : FileTree) (message : String) : Answer :=
  ⟨failed, [], some ("Error: " ++ message), [], files⟩

end Answer

/-- Load a program that must exist. -/
def readProgram (files : FileTree) (path : String) : Except String Program :=
  if files.holds path then
    match loadProgram files path with
    | .ok program => .ok program
    | .error e => .error e.message
  else .error ("Program file " ++ path ++ " does not exist")

/-- Load a level and a program that must exist. -/
def readPuzzle (files : FileTree) (level program : String) : Except String (Level × Program) :=
  match loadLevel files level with
  | .error e => .error e.message
  | .ok level =>
      match readProgram files program with
      | .error e => .error e
      | .ok program => .ok (level, program)

/-- The message for a program that cannot be run. -/
def cannotRun (path : String) (e : ProgramError) : String :=
  "Cannot run " ++ path ++ ": " ++ e.message

/-- The log of a run as JSON: its events and its outcome, one value a line. -/
def jsonLog (events : List RunEvent) (outcome : Outcome) : List String :=
  events.map (fun event => (Format.writeRunEvent event).compact)
    ++ [(Format.writeOutcome outcome).compact]

/-- The log of a run in sentences. -/
def textLog (events : List RunEvent) (outcome : Outcome) : List String :=
  events.map RunEvent.text ++ [outcome.text]

/-- Carry out a request. -/
def Request.answer (s : Surroundings) : Request → Answer
  | .run levelPath programPath json =>
      match readPuzzle s.files levelPath programPath with
      | .error e => .failure s.files e
      | .ok (level, program) =>
          let report := start program level .silent
          match report.result with
          | .error e => .failure s.files (cannotRun programPath e)
          | .ok outcome =>
              { status := if outcome.isSuccess then 0 else Answer.unsolved
                output := (if json then jsonLog else textLog) report.events outcome
                errors := none
                screen := []
                files := s.files }
  | .play levelPath programPath =>
      match readPuzzle s.files levelPath programPath with
      | .error e => .failure s.files e
      | .ok (level, program) =>
          match program.check with
          | .error e => .failure s.files (cannotRun programPath e)
          | .ok () =>
              match Player.run ⟨level, program, Format.configOfText s.config⟩ s.size s.keys with
              | .error e => .failure s.files e
              | .ok ops => ⟨0, [], none, ops, s.files⟩
  | .edit levelPath programPath =>
      match loadLevel s.files levelPath with
      | .error e => .failure s.files e.message
      | .ok level =>
          match loadProgram s.files programPath with
          | .error e => .failure s.files e.message
          | .ok program =>
              let editor :=
                EditorState.ofProgram level program programPath (Format.configOfText s.config)
              let (files, ops) := (Session.ofEditor editor s.files s.keys).run s.size
              ⟨0, [], none, ops, files⟩

/-- Answer a command line. -/
def answer (args : List String) (s : Surroundings) : Answer :=
  match Request.ofArgs args with
  | .error message => .failure s.files message
  | .ok request => request.answer s

end Beamwalk
