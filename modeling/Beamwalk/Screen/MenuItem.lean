/-
Module: Beamwalk.Screen.MenuItem
Purpose: Menu items with their keys in brackets.
Main exports: MenuPiece, MenuPiece.ofItem, MenuPiece.draw, drawMenuItem
-/
import Beamwalk.Screen.Op

namespace Beamwalk

/-- A piece of a menu item. -/
inductive MenuPiece where
  /-- A key with its brackets. -/
  | key (text : List Char)
  /-- Words between keys. -/
  | words (text : List Char)
deriving Repr, Inhabited, DecidableEq

namespace MenuPiece

/-- The characters of a piece. -/
def text : MenuPiece → List Char
  | .key text | .words text => text

/-- Cut an item into keys and words.  A key runs from an opening bracket to the
next closing one; a bracket that is not closed belongs to the words. -/
def ofItem (item : List Char) : List MenuPiece :=
  match _hopen : item.dropWhile (· ≠ '[') with
  | [] => [.words item]
  | opening :: inside =>
      match _hclose : inside.dropWhile (· ≠ ']') with
      | [] => [.words item]
      | closing :: rest =>
          .words (item.takeWhile (· ≠ '['))
            :: .key (opening :: inside.takeWhile (· ≠ ']') ++ [closing])
            :: ofItem rest
termination_by item.length
decreasing_by
  have l₁ := (List.dropWhile_sublist (l := item) (· ≠ '[')).length_le
  have l₂ := (List.dropWhile_sublist (l := inside) (· ≠ ']')).length_le
  rw [_hopen, List.length_cons] at l₁
  rw [_hclose, List.length_cons] at l₂
  omega

/-- Keys are bold and words are dim; nothing is drawn for no words. -/
def draw : MenuPiece → List DrawOp
  | .key text => [.bold, .print (String.ofList text), .plain]
  | .words [] => []
  | .words text => [.dim, .print (String.ofList text), .plain]

end MenuPiece

/-- Draw a menu item. -/
def drawMenuItem (item : String) : List DrawOp :=
  (MenuPiece.ofItem item.toList).flatMap MenuPiece.draw

end Beamwalk
