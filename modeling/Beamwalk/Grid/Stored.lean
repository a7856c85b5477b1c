/-
Module: Beamwalk.Grid.Stored
Purpose: Tables as they lie in memory, with places computed in machine words.
Main exports: StoredGrid, StoredGrid.filled, StoredGrid.ofRows, StoredGrid.get,
  StoredGrid.modify, StoredGrid.scan, StoredGrid.rows
-/
import Beamwalk.Geometry

namespace Beamwalk

/-!
Nothing ties the size that a stored grid states to the number of cells that lie in its
array.  The number is computed once, when the grid is filled, and a place each time a
position is looked up; both computations wrap at the end of a machine word.  A place beyond
the end of the array is an error that no caller can answer.
-/

/-- What is left of a number in a machine word. -/
def word (n : Nat) : Nat := n % UInt64.size

/-- A place beyond the end of the storage. -/
structure OutOfRange where
  place : Nat
  size : Nat
deriving Repr, DecidableEq

/-- A `width` by `height` table of cells, or what is left of one in memory. -/
structure StoredGrid (α : Type) where
  width : Nat
  height : Nat
  cells : Array α
deriving Repr, DecidableEq

namespace StoredGrid

variable {α : Type}

/-- As many copies of a value as the size asks for. -/
def filled (width height : Nat) (value : α) : StoredGrid α where
  width := width
  height := height
  cells := Array.replicate (word (width * height)) value

/-- The rows, one after the other; whoever draws them sees to it that they are of one length. -/
def ofRows (rows : List (List α)) : StoredGrid α where
  width := (rows.head?.map List.length).getD 0
  height := rows.length
  cells := rows.flatten.toArray

/-- The position is inside the bounds that the grid states. -/
def contains (g : StoredGrid α) (p : Pos) : Bool := p.row < g.height && p.col < g.width

/-- Where the cell at a position is looked for. -/
def place (g : StoredGrid α) (p : Pos) : Nat := word (p.row * g.width + p.col)

/-- The cell at a place of the storage. -/
def cellAt (g : StoredGrid α) (i : Nat) : Except OutOfRange α :=
  match g.cells[i]? with
  | some value => .ok value
  | none => .error ⟨i, g.cells.size⟩

/-- The cell at a position, `none` outside the bounds. -/
def get (g : StoredGrid α) (p : Pos) : Except OutOfRange (Option α) :=
  if g.contains p then (g.cellAt (g.place p)).map some else .ok none

/-- Change the cell at a position; outside the bounds nothing happens. -/
def modify (g : StoredGrid α) (p : Pos) (f : α → α) : Except OutOfRange (StoredGrid α) :=
  if g.contains p then
    (g.cellAt (g.place p)).map fun value =>
      { g with cells := g.cells.setIfInBounds (g.place p) (f value) }
  else .ok g

/-- The cells in the order of the storage, with the positions that belong to their places. -/
def scan (g : StoredGrid α) : List (Pos × α) :=
  g.cells.toList.zipIdx.map fun (value, i) => (⟨i / g.width, i % g.width⟩, value)

/-- The storage in pieces of one length, as many as it takes to use it up; the last one may
be shorter. -/
def pieces (length : Nat) (cells : Array α) : List (List α) :=
  (List.range ((cells.size + (length - 1)) / length)).map fun i =>
    (cells.extract (i * length) (i * length + length)).toList

/-- The cells as rows. -/
def rows (g : StoredGrid α) : List (List α) := pieces (max g.width 1) g.cells

end StoredGrid

end Beamwalk
