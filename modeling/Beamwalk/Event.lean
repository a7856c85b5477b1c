/-
Module: Beamwalk.Event
Purpose: What a run reports while it goes on.
Main exports: Stride, StrikeTiming, Obstacle, RunEvent, RunEvent.text
-/
import Beamwalk.Geometry
import Beamwalk.Level.Group

namespace Beamwalk

/-- How far an actor tries to go. -/
inductive Stride where
  | advance
  | jump
deriving Repr, Inhabited, DecidableEq

namespace Stride

/-- The distance in cells. -/
def distance : Stride → Nat
  | .advance => 1
  | .jump => 2

end Stride

/-- When a beam strikes, relative to the move that led into it. -/
inductive StrikeTiming where
  /-- The cell was live before the actor came. -/
  | instantaneous
  /-- The button that the actor landed on made the cell live. -/
  | delayed
deriving Repr, Inhabited, DecidableEq

/-- What keeps an actor from moving. -/
inductive Obstacle where
  | offGrid
  /-- The cell at `pos` cannot be stood on. -/
  | solid (pos : Pos)
deriving Repr, Inhabited, DecidableEq

/-- One thing that happens in a run.  Actors are named by their number. -/
inductive RunEvent where
  | actorAdvanced (actor : Nat) (source target : Pos)
  | actorJumped (actor : Nat) (source target : Pos)
  | actorTurned (actor : Nat) (turn : Turn) (facing : Direction)
  | actorBlocked (actor : Nat) (stride : Stride) (source : Pos) (obstacle : Obstacle)
  | actorStruck (actor : Nat) (pos : Pos) (timing : StrikeTiming)
  | coinCollected (actor : Nat) (pos : Pos)
  /-- The groups that flipped, and which groups are on now. -/
  | hazardsToggled (groups : GroupSet) (enabled : Switches)
  /-- The program ended with coins left. -/
  | coinsUneaten (remaining : Nat)
deriving Repr, Inhabited, DecidableEq

namespace RunEvent

/-- The word for the state of a switch. -/
def onOff (on : Bool) : String := if on then "on" else "off"

/-- The line of the run log. -/
def text : RunEvent → String
  | .actorAdvanced actor source target =>
      s!"actor {actor} advances {source.text} -> {target.text}"
  | .actorJumped actor source target => s!"actor {actor} jumps {source.text} -> {target.text}"
  | .actorTurned actor turn facing =>
      s!"actor {actor} turns {turn.label}, now facing {facing.label}"
  | .actorBlocked actor _ source .offGrid =>
      s!"actor {actor} at {source.text} would leave the grid"
  | .actorBlocked actor _ source (.solid pos) =>
      s!"actor {actor} at {source.text} is blocked by {pos.text}"
  | .actorStruck actor pos .instantaneous => s!"actor {actor} is struck at {pos.text}"
  | .actorStruck actor pos .delayed =>
      s!"actor {actor} is struck at {pos.text} by the beam it switched on"
  | .coinCollected actor pos => s!"actor {actor} eats the dot at {pos.text}"
  | .hazardsToggled _ enabled =>
      "lazers toggled: red " ++ onOff enabled.red ++ ", blue " ++ onOff enabled.blue
        ++ ", green " ++ onOff enabled.green
  | .coinsUneaten remaining => s!"{remaining} dots left uneaten"

end RunEvent

end Beamwalk
