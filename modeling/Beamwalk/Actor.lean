/-
Module: Beamwalk.Actor
Purpose: Actors and what a command does to one of them.
Main exports: Actor, spawn, Move, Resolution, Resolution.failure, resolve
-/
import Beamwalk.Event
import Beamwalk.Outcome
import Beamwalk.Program.Command
import Beamwalk.World

namespace Beamwalk

/-- Someone who walks the grid. -/
structure Actor where
  id : Nat
  color : ActorColor
  pos : Pos
  facing : Direction
deriving Repr, Inhabited, DecidableEq

/-- The facing of a start marker. -/
def CellKind.startFacing? : CellKind → Option Direction
  | .start facing => some facing
  | _ => none

/-- The start markers of a grid in scan order. -/
def Grid.startMarkers (cells : Grid CellKind) : List (Pos × Direction) :=
  cells.scan.filterMap fun entry => entry.2.startFacing?.map (entry.1, ·)

/-- Give every start marker an actor, as far as the roster goes, and turn the
markers of these actors into floor. -/
def spawn (w : World) : World × List Actor :=
  let actors := (w.cells.startMarkers.zip roster).mapIdx fun id entry =>
    { id := id, color := entry.2, pos := entry.1.1, facing := entry.1.2 : Actor }
  (w.clearStarts (actors.map Actor.pos), actors)

/-- A move that took place and what it triggered on arrival. -/
structure Move where
  stride : Stride
  source : Pos
  target : Pos
  coin : Bool
  toggled : Option GroupSet
  strike : Option StrikeTiming
deriving Repr, Inhabited, DecidableEq

/-- What became of a command. -/
inductive Resolution where
  | turned (turn : Turn) (facing : Direction)
  | moved (move : Move)
  | blocked (stride : Stride) (source : Pos) (obstacle : Obstacle)
deriving Repr, Inhabited, DecidableEq

namespace Resolution

/-- Why the resolution ends the run, if it does. -/
def failure (r : Resolution) (actor : Nat) : Option FailureReason :=
  match r with
  | .turned _ _ => none
  | .moved move => move.strike.map fun _ => .struck actor move.target
  | .blocked _ source .offGrid => some (.offGrid actor source)
  | .blocked _ _ (.solid pos) => some (.blocked actor pos)

end Resolution

/-- When the beams around a landing strike: only a cell that is live after the
landing took effect strikes at all. -/
def Arrival.strike (a : Arrival) : Option StrikeTiming :=
  match a.liveBefore, a.liveAfter with
  | _, false => none
  | true, true => some .instantaneous
  | false, true => some .delayed

namespace Actor

/-- Turn on the spot. -/
def rotate (a : Actor) (turn : Turn) : Actor × Resolution :=
  let facing := turn.apply a.facing
  ({ a with facing := facing }, .turned turn facing)

/-- Move by a stride.  Only the cell of arrival matters: a jump passes over
anything. -/
def travel (w : World) (a : Actor) (stride : Stride) : World × Actor × Resolution :=
  match (a.pos.step a.facing stride.distance).bind fun target =>
      (w.cell? target).map (target, ·) with
  | none => (w, a, .blocked stride a.pos .offGrid)
  | some (target, kind) =>
      if kind.occupiable then
        let (entered, arrival) := w.enter target
        (entered, { a with pos := target },
          .moved
            { stride := stride
              source := a.pos
              target := target
              coin := arrival.coin
              toggled := arrival.toggled
              strike := arrival.strike })
      else (w, a, .blocked stride a.pos (.solid target))

end Actor

/-- What a command does for an actor.  Loop markers and the reserved markers do
nothing: they resolve to `none`. -/
def resolve (w : World) (a : Actor) : Command → Option (World × Actor × Resolution)
  | .turnLeft => some (w, a.rotate .left)
  | .turnRight => some (w, a.rotate .right)
  | .uTurn => some (w, a.rotate .around)
  | .advance => some (a.travel w .advance)
  | .jump => some (a.travel w .jump)
  | .loopStart _ | .loopEnd | .ifThen | .ifElse | .ifEnd => none

end Beamwalk
