/-
Module: Beamwalk.Storage.Documents
Purpose: Levels and programs in files.
Main exports: StorageError, loadLevel, loadProgram, programText, saveProgram
-/
import Beamwalk.Format.Program
import Beamwalk.Storage.FileTree

namespace Beamwalk

/-- Why a document could not be loaded or saved. -/
inductive StorageCause where
  | file (error : FileError)
  | text (error : Json.ReadError)
  | level (error : LevelError)
deriving Repr, Inhabited, DecidableEq

/-- A failure to load or save, with the path of the document. -/
inductive StorageError where
  | read (path : String) (error : FileError)
  | parse (path : String) (error : Json.ReadError)
  | invalidLevel (path : String) (error : LevelError)
  | write (path : String) (error : FileError)
deriving Repr, Inhabited, DecidableEq

namespace StorageError

/-- What failed. -/
def summary : StorageError → String
  | .read path _ => "Failed to read " ++ path
  | .parse path _ => "Failed to parse " ++ path
  | .invalidLevel path _ => "Invalid level " ++ path
  | .write path _ => "Failed to write " ++ path

/-- Why it failed. -/
def cause : StorageError → StorageCause
  | .read _ e | .write _ e => .file e
  | .parse _ e => .text e
  | .invalidLevel _ e => .level e

/-- The words for the cause. -/
def causeText : StorageError → String
  | .read _ e | .write _ e => e.message
  | .parse _ .malformed => "malformed JSON"
  | .parse _ (.shape e) => e.message
  | .invalidLevel _ e => e.message

/-- What failed and why. -/
def message (e : StorageError) : String := e.summary ++ ": " ++ e.causeText

end StorageError

/-- Load a level. -/
def loadLevel (t : FileTree) (path : String) : Except StorageError Level :=
  match t.read path with
  | .error e => .error (.read path e)
  | .ok text =>
      match Json.Reader.readText Format.blueprint text with
      | .error e => .error (.parse path e)
      | .ok blueprint =>
          match blueprint.build with
          | .error e => .error (.invalidLevel path e)
          | .ok level => .ok level

/-- Load a program; a file that does not exist yet holds the empty program. -/
def loadProgram (t : FileTree) (path : String) : Except StorageError Program :=
  if t.holds path then
    match t.read path with
    | .error e => .error (.read path e)
    | .ok text =>
        match Json.Reader.readText Format.program text with
        | .error e => .error (.parse path e)
        | .ok program => .ok program
  else .ok .empty

/-- The text that a program is saved as. -/
def programText (p : Program) : String := (Format.writeProgram p).pretty

/-- Save a program. -/
def saveProgram (t : FileTree) (path : String) (p : Program) : Except StorageError FileTree :=
  match t.write path (programText p) with
  | .error e => .error (.write path e)
  | .ok t => .ok t

end Beamwalk
