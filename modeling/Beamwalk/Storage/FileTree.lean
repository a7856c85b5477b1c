/-
Module: Beamwalk.Storage.FileTree
Purpose: The files below a working directory.
Main exports: FileError, FileTree, FileTree.read, FileTree.write, FileTree.holds
-/

namespace Beamwalk

/-- Why a file cannot be read or written. -/
inductive FileError where
  | notFound
  | notDirectory
  | isDirectory
  | nameTooLong
  | nulByte
deriving Repr, Inhabited, DecidableEq

namespace FileError

/-- The words of the operating system. -/
def message : FileError → String
  | .notFound => "No such file or directory (os error 2)"
  | .notDirectory => "Not a directory (os error 20)"
  | .isDirectory => "Is a directory (os error 21)"
  | .nameTooLong => "File name too long (os error 36)"
  | .nulByte => "file name contained an unexpected NUL byte"

end FileError

/-!
A file is named by the directories that lead to it from the root and its own
name.  A directory exists if some file lies below it or if the working
directory is reached through it; none is ever made or removed.
-/

/-- Files with their texts, by the names along their paths, and the directory
from which paths are followed. -/
structure FileTree where
  working : List String
  files : List (List String × String)
deriving Repr, Inhabited, DecidableEq

/-- What a path leads to. -/
inductive FileEntry where
  | file (place : List String) (text : String)
  | directory
  /-- Nothing yet, but a file could be made there. -/
  | vacant (place : List String)
deriving Repr, Inhabited, DecidableEq

namespace FileTree

/-- A working directory without files. -/
def empty (working : List String) : FileTree := ⟨working, []⟩

/-- The text of the file at a place. -/
def text? (t : FileTree) (place : List String) : Option String := t.files.lookup place

/-- The place is a directory. -/
def isDirectory (t : FileTree) (place : List String) : Bool :=
  place.isPrefixOf t.working || t.files.any fun file =>
    place.length < file.1.length && place.isPrefixOf file.1

/-- Put a text at a place. -/
def put (t : FileTree) (place : List String) (text : String) : FileTree :=
  { t with files := (place, text) :: t.files.filter (·.1 ≠ place) }

/-- The names in a path. -/
def names (path : String) : List String := path.splitOn "/"

/-- The place that a path spells, from the root if it starts there, else from
the working directory; what lies there does not matter. -/
def place (t : FileTree) (path : String) : List String :=
  (names path).foldl (fun (here : List String) name =>
      if name = "" ∨ name = "." then here
      else if name = ".." then here.dropLast
      else here ++ [name])
    (if path.startsWith "/" then [] else t.working)

/-- The longest name that a directory can hold, in bytes. -/
def maxNameBytes : Nat := 255

/-- Follow names from a directory of the tree. -/
def follow (t : FileTree) : (place : List String) → List String → Except FileError FileEntry
  | _, [] => .ok .directory
  | place, name :: rest =>
      if name = "" ∨ name = "." then follow t place rest
      else if name = ".." then follow t place.dropLast rest
      else if maxNameBytes < name.utf8ByteSize then .error .nameTooLong
      else
        let here := place ++ [name]
        match t.text? here with
        | some text => if rest.isEmpty then .ok (.file here text) else .error .notDirectory
        | none =>
            if t.isDirectory here then follow t here rest
            else if rest.isEmpty then .ok (.vacant here)
            else .error .notFound

/-- The longest path that can be followed, in bytes. -/
def maxPathBytes : Nat := 4095

/-- What a path leads to: from the root if it starts there, else from the
working directory.  A path that is too long leads nowhere, whatever lies along
it. -/
def resolve (t : FileTree) (path : String) : Except FileError FileEntry :=
  if path.toList.contains '\x00' then .error .nulByte
  else if maxPathBytes < path.utf8ByteSize then .error .nameTooLong
  else
    match names path with
    | [""] => .error .notFound
    | "" :: rest => follow t [] rest
    | place => follow t t.working place

/-- A path leads to a file or a directory. -/
def holds (t : FileTree) (path : String) : Bool :=
  match t.resolve path with
  | .ok (.file _ _) | .ok .directory => true
  | _ => false

/-- The text of the file that a path leads to. -/
def read (t : FileTree) (path : String) : Except FileError String :=
  match t.resolve path with
  | .ok (.file _ text) => .ok text
  | .ok .directory => .error .isDirectory
  | .ok (.vacant _) => .error .notFound
  | .error e => .error e

/-- Write a text to the file that a path leads to, making the file if need be. -/
def write (t : FileTree) (path : String) (text : String) : Except FileError FileTree :=
  match t.resolve path with
  | .ok (.file place _) | .ok (.vacant place) => .ok (t.put place text)
  | .ok .directory => .error .isDirectory
  | .error e => .error e

end FileTree

end Beamwalk
