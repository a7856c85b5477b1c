/-
Module: Beamwalk.Hazard.Field
Purpose: The beams that the sources of a grid cast.
Main exports: Field, Field.ray, Field.derive
-/
import Beamwalk.Grid
import Beamwalk.Level.Cell
import Beamwalk.Hazard.Beams
import Beamwalk.Hazard.Order

namespace Beamwalk

/-- The beams in every cell of a grid. -/
abbrev Field := Grid Beams

namespace Field

/-!
Groups cast one after the other, in their order of precedence.  A beam runs
from its source to the edge of the grid and claims the cells that it crosses
for its group.  In a cell claimed by another group it ends: it still touches
the side on which it comes in, but it does not leave the cell and does not
claim it.
-/

/-- A field under construction: the beams so far, and the group that claimed
each cell. -/
structure Casting where
  beams : Field
  owner : Grid (Option Group)
deriving Repr, DecidableEq

/-- Nothing cast yet. -/
def Casting.start (width height : Nat) : Casting :=
  ⟨Grid.filled width height .none, Grid.filled width height none⟩

/-- The positions from one cell beyond `p` up to the edge of a grid of the
given size. -/
def ray (width height : Nat) (p : Pos) : Direction → List Pos
  | .north => (List.range p.row).map fun k => ⟨p.row - (k + 1), p.col⟩
  | .south => (List.range (height - (p.row + 1))).map fun k => ⟨p.row + (k + 1), p.col⟩
  | .east => (List.range (width - (p.col + 1))).map fun k => ⟨p.row, p.col + (k + 1)⟩
  | .west => (List.range p.col).map fun k => ⟨p.row, p.col - (k + 1)⟩

/-- Lead a beam of `group` travelling in direction `d` along the cells of a
ray, until a cell of another group ends it. -/
def castAlong (group : Group) (d : Direction) : List Pos → Casting → Casting
  | [], c => c
  | p :: rest, c =>
      match c.owner.get? p with
      | none => c
      | some claim =>
          if claim.any (· ≠ group) then
            { c with beams := c.beams.modify p (·.union (.side d.reversed)) }
          else
            castAlong group d rest
              { beams := c.beams.modify p (·.union ((Beams.side d.reversed).union (.side d)))
                owner := c.owner.set p (some group) }

/-- Cast one beam from a source to the edge. -/
def cast (group : Group) (c : Casting) (source : Pos) (d : Direction) : Casting :=
  castAlong group d (ray c.beams.width c.beams.height source d) c

/-- The directions in which a cell casts beams of a group. -/
def directions (group : Group) : CellKind → List Direction
  | .horizontalSource g => if g = group then [.east, .west] else []
  | .verticalSource g => if g = group then [.north, .south] else []
  | _ => []

/-- Cast all beams of one group, its sources in scan order. -/
def castGroup (cells : Grid CellKind) (c : Casting) (group : Group) : Casting :=
  cells.scan.foldl
    (fun c entry => (directions group entry.2).foldl (fun c d => cast group c entry.1 d) c) c

/-- The field of a grid: every group of the order that is on casts its beams. -/
def derive (cells : Grid CellKind) (enabled : Switches) (order : GroupOrder) : Field :=
  ((order.groups.filter enabled.get).foldl (castGroup cells)
    (Casting.start cells.width cells.height)).beams

end Field

end Beamwalk
