/-
Module: Beamwalk.Main
Purpose: The command line on real files and a real terminal.
Main exports: main
-/
import Beamwalk.CommandLine
import Beamwalk.Keyboard.Typed

namespace Beamwalk.Console

/-!
Everything a command needs is gathered first, then the command is answered,
and then its answer is carried out.  The keys of a session are what stands on
the standard input, up to its end.
-/

/-- Add the file that a path names to a tree, and the directory that it would
lie in: an entry named `.` keeps a directory without letting any path reach the
entry. -/
def addFile (t : FileTree) (path : String) : IO FileTree := do
  let file := (← IO.currentDir) / path
  let place := t.place path
  let directory := place.dropLast
  let t :=
    if ← (file.parent.getD file).isDir then t.put (directory ++ ["."]) "" else t
  if ← file.isDir then return t.put (place ++ ["."]) ""
  else if ← file.pathExists then return t.put place (← IO.FS.readFile file)
  else return t

/-- The files that a command works on. -/
def gatherFiles (paths : List String) : IO FileTree := do
  let here := (FileTree.empty []).place (← IO.currentDir).toString
  paths.foldlM addFile (.empty here)

/-- The settings of the user. -/
def gatherConfig : IO (Option String) := do
  let home := (← IO.getEnv "HOME").getD "."
  try return some (← IO.FS.readFile (home ++ "/.config/probot/config.json"))
  catch _ => return none

/-- One side of the terminal, from the environment variable of the name. -/
def gatherExtent (name : String) (usual : Nat) : IO UInt16 := do
  let text := (← IO.getEnv name).getD ""
  return UInt16.ofNat ((Text.parseNat? (Nat.pow 2 16) text.toList).getD usual)

/-- All that is left of a stream. -/
partial def readAll (input : IO.FS.Stream) (before : String) : IO String := do
  let line ← input.getLine
  if line.isEmpty then return before else readAll input (before ++ line)

/-- The keys that were typed, for a command that reads keys. -/
def gatherKeys (request : Except String Request) : IO KeyQueue := do
  match request with
  | .ok (.play _ _) | .ok (.edit _ _) =>
      return { waiting := Key.ofTyped (← readAll (← IO.getStdin) "") }
  | _ => return { waiting := [] }

/-- Write the files that a command has changed. -/
def writeBack (before after : FileTree) (paths : List String) : IO Unit := do
  for path in paths do
    match after.text? (after.place path) with
    | some text =>
        if before.text? (before.place path) ≠ some text then
          IO.FS.writeFile ((← IO.currentDir) / path) text
    | none => pure ()

end Beamwalk.Console

open Beamwalk Console in
/-- Answer the command line. -/
def main (args : List String) : IO UInt32 := do
  let paths := (args.drop 1).take 2
  let files ← gatherFiles paths
  let found : Surroundings :=
    { files := files
      config := ← gatherConfig
      size := ⟨← gatherExtent "COLUMNS" 80, ← gatherExtent "LINES" 24⟩
      keys := ← gatherKeys (Request.ofArgs args) }
  let a := answer args found
  IO.print (DrawOp.escapes a.screen)
  a.output.forM IO.println
  a.errors.forM IO.eprintln
  writeBack files a.files paths
  return UInt32.ofNat a.status
