/-
Module: Beamwalk.Level.Cell
Purpose: What a cell of a level holds, and the symbol it is drawn with.
Main exports: CellKind, CellKind.occupiable, CellKind.symbol, CellKind.ofSymbol?
-/
import Beamwalk.Geometry
import Beamwalk.Level.Group

namespace Beamwalk

/-- The content of one cell. -/
inductive CellKind where
  | empty
  | coin
  /-- An actor stands here at the start of a run. -/
  | start (facing : Direction)
  /-- Casts beams east and west while its group is on. -/
  | horizontalSource (group : Group)
  /-- Casts beams north and south while its group is on. -/
  | verticalSource (group : Group)
  /-- Toggles its groups whenever an actor lands on it. -/
  | button (groups : GroupSet)
deriving Repr, Inhabited, DecidableEq

namespace CellKind

/-- An actor may stand on anything but a hazard source. -/
def occupiable : CellKind → Bool
  | .horizontalSource _ | .verticalSource _ => false
  | _ => true

/-- A start marker. -/
def isStart : CellKind → Bool
  | .start _ => true
  | _ => false

/-!
The legend.  Every kind has one symbol; a blank is a second spelling of the
empty floor.
-/

/-- The symbol of a button: a digit for one or two groups, a star for all. -/
def buttonSymbol (groups : GroupSet) : Char :=
  match groups.red, groups.blue, groups.green with
  | true, false, false => '1'
  | false, true, false => '2'
  | false, false, true => '3'
  | true, true, false => '4'
  | true, false, true => '5'
  | false, true, true => '6'
  | _, _, _ => '*'

/-- The symbol a cell is drawn with. -/
def symbol : CellKind → Char
  | .empty => '.'
  | .coin => 'o'
  | .start .north => '^'
  | .start .east => '>'
  | .start .south => 'v'
  | .start .west => '<'
  | .horizontalSource .red => 'a'
  | .horizontalSource .blue => 'b'
  | .horizontalSource .green => 'c'
  | .verticalSource .red => 'A'
  | .verticalSource .blue => 'B'
  | .verticalSource .green => 'C'
  | .button groups => buttonSymbol groups

/-- The meaning of a symbol, `none` outside the legend. -/
def ofSymbol? : Char → Option CellKind
  | '.' => some .empty
  | ' ' => some .empty
  | 'o' => some .coin
  | '^' => some (.start .north)
  | '>' => some (.start .east)
  | 'v' => some (.start .south)
  | '<' => some (.start .west)
  | 'a' => some (.horizontalSource .red)
  | 'b' => some (.horizontalSource .blue)
  | 'c' => some (.horizontalSource .green)
  | 'A' => some (.verticalSource .red)
  | 'B' => some (.verticalSource .blue)
  | 'C' => some (.verticalSource .green)
  | '1' => some (.button (.single .red))
  | '2' => some (.button (.single .blue))
  | '3' => some (.button (.single .green))
  | '4' => some (.button (.allBut .green))
  | '5' => some (.button (.allBut .blue))
  | '6' => some (.button (.allBut .red))
  | '*' => some (.button .all)
  | _ => none

/-- A drawn cell reads back as itself. -/
theorem ofSymbol?_symbol (kind : CellKind) : ofSymbol? kind.symbol = some kind := by
  cases kind with
  | empty => rfl
  | coin => rfl
  | start facing => cases facing <;> rfl
  | horizontalSource group => cases group <;> rfl
  | verticalSource group => cases group <;> rfl
  | button groups =>
    obtain ⟨r, b, g, h⟩ := groups
    cases r <;> cases b <;> cases g <;> first | rfl | exact absurd h (by decide)

end CellKind

end Beamwalk
