/-
Module: Beamwalk.Picture
Purpose: Boards as grids of styled characters.
Main exports: Color, Style, Glyph, Picture, Board.picture
-/
import Beamwalk.Board

namespace Beamwalk

/-- The colours of a picture. -/
inductive Color where
  | red
  | green
  | yellow
  | blue
  | magenta
  | cyan
  | white
  | rgb (red green blue : UInt8)
deriving Repr, Inhabited, DecidableEq

/-- How a character looks. -/
structure Style where
  foreground : Option Color := none
  background : Option Color := none
  bold : Bool := false
  dim : Bool := false
deriving Repr, Inhabited, DecidableEq

/-- A styled character. -/
structure Glyph where
  char : Char
  style : Style
deriving Repr, Inhabited, DecidableEq

/-- One glyph for each cell of a board. -/
abbrev Picture := Grid Glyph

/-!
A picture is painted in four layers: fixtures, beams, actors, strikes.  A beam
lights the ground of whatever it crosses but redraws only empty floor, so that
fixtures stay legible; an actor keeps the ground it stands on; a strike covers
everything.
-/

/-- The colour of a hazard group. -/
def Group.color : Group → Color
  | .red => .red
  | .blue => .blue
  | .green => .green

/-- The colour an actor is drawn in. -/
def ActorColor.color : ActorColor → Color
  | .orange => .rgb 255 150 0
  | .violet => .magenta
  | .teal => .cyan
  | .pink => .rgb 255 120 200

/-- An arrow head in the direction. -/
def Direction.arrow : Direction → Char
  | .north => '▲'
  | .east => '▶'
  | .south => '▼'
  | .west => '◀'

/-- The line that the beams of a cell draw on its floor. -/
def Beams.line (b : Beams) : Char :=
  match b.has .east || b.has .west, b.has .north || b.has .south with
  | true, true => '┼'
  | true, false => '─'
  | _, _ => '│'

namespace Glyph

/-- A bold character in a colour. -/
def bright (char : Char) (color : Color) : Glyph :=
  ⟨char, { foreground := some color, bold := true }⟩

/-- The colour of a button: that of its group, or white for several. -/
def buttonColor (groups : GroupSet) : Color :=
  match groups.toList with
  | [g] => g.color
  | _ => .white

/-- The glyph of what a cell holds. -/
def ofCell : CellKind → Glyph
  | .empty | .start _ => ⟨'·', { dim := true }⟩
  | .coin => bright '•' .yellow
  | .horizontalSource g | .verticalSource g => bright '◆' g.color
  | .button groups => bright '▣' (buttonColor groups)

/-- The ground of a cell that a beam crosses. -/
def beamGround : Color := .rgb 70 0 0

/-- Light a glyph by beams. -/
def lit (kind : CellKind) (beams : Beams) (g : Glyph) : Glyph :=
  if beams.isLive then
    { char := if kind = .empty then beams.line else g.char
      style := { g.style with background := some beamGround } }
  else g

/-- Put an actor in front of a glyph. -/
def behind (a : Actor) (g : Glyph) : Glyph :=
  { char := a.facing.arrow
    style := { g.style with foreground := some a.color.color, bold := true } }

/-- The mark of a strike. -/
def strike : Glyph :=
  ⟨'✖', { foreground := some .white, background := some .red, bold := true }⟩

end Glyph

namespace Board

/-- The fixtures. -/
def paintFixtures (b : Board) : Picture where
  width := b.world.cells.width
  height := b.world.cells.height
  cells := b.world.cells.cells.map Glyph.ofCell
  size_eq := by rw [Array.size_map]; exact b.world.cells.size_eq

/-- The beams of the field over the fixtures. -/
def paintBeams (b : Board) (picture : Picture) : Picture :=
  b.world.hazards.field.scan.foldl
    (fun picture entry =>
      match b.world.cell? entry.1 with
      | some kind => picture.modify entry.1 (Glyph.lit kind entry.2)
      | none => picture)
    picture

/-- The actors, a later one in front of an earlier one. -/
def paintActors (b : Board) (picture : Picture) : Picture :=
  b.actors.foldl (fun picture a => picture.modify a.pos (Glyph.behind a)) picture

/-- The strikes. -/
def paintStrikes (b : Board) (picture : Picture) : Picture :=
  b.struck.foldl (fun picture p => picture.set p Glyph.strike) picture

/-- The picture of a board. -/
def picture (b : Board) : Picture :=
  b.paintStrikes (b.paintActors (b.paintBeams b.paintFixtures))

end Board

end Beamwalk
