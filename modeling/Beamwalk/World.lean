/-
Module: Beamwalk.World
Purpose: The cells and hazards of a level as a run changes them.
Main exports: World, World.ofLevel, World.enter, Arrival
-/
import Beamwalk.Level.Basic
import Beamwalk.Hazard.State

namespace Beamwalk

/-- The part of a run that is not an actor: coins get eaten, hazards get
toggled. -/
structure World where
  cells : Grid CellKind
  hazards : HazardState
deriving Repr, DecidableEq

/-- What landing on a cell did. -/
structure Arrival where
  /-- A coin was eaten. -/
  coin : Bool
  /-- The groups that a button flipped. -/
  toggled : Option GroupSet
  /-- A beam crossed the cell before the landing took effect. -/
  liveBefore : Bool
  /-- A beam crosses the cell now. -/
  liveAfter : Bool
deriving Repr, Inhabited, DecidableEq

namespace World

/-- The world of a level before anyone has moved. -/
def ofLevel (level : Level) : World :=
  ⟨level.cells, HazardState.start level.cells level.enabled⟩

/-- The content of a cell, `none` off the grid. -/
def cell? (w : World) (p : Pos) : Option CellKind := w.cells.get? p

/-- The number of coins still to be eaten. -/
def coinsRemaining (w : World) : Nat := w.cells.coins

/-- Whether a beam crosses the cell. -/
def isLive (w : World) (p : Pos) : Bool := w.hazards.isLive p

/-- Turn start markers into plain floor. -/
def clearStarts (w : World) (starts : List Pos) : World :=
  { w with cells := starts.foldl (fun cells p => cells.set p .empty) w.cells }

/-- Flip hazard groups. -/
def toggle (w : World) (groups : GroupSet) : World :=
  { w with hazards := w.hazards.toggle groups w.cells }

/-- An actor lands on `p`: a coin is eaten, a button is pressed. -/
def enter (w : World) (p : Pos) : World × Arrival :=
  let before := w.isLive p
  match w.cell? p with
  | some .coin => ({ w with cells := w.cells.set p .empty }, ⟨true, none, before, before⟩)
  | some (.button groups) =>
      let pressed := w.toggle groups
      (pressed, ⟨false, some groups, before, pressed.isLive p⟩)
  | _ => (w, ⟨false, none, before, before⟩)

end World

end Beamwalk
