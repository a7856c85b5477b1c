/-
Module: Beamwalk.Board
Purpose: What a viewer knows of a run from its events alone.
Main exports: Board, Board.ofState, Board.apply, Board.replay
-/
import Beamwalk.Run.State

namespace Beamwalk

/-- The viewer's picture of a run: world, actors and the places of strikes. -/
structure Board where
  world : World
  actors : List Actor
  /-- Where actors were struck, the first strike first. -/
  struck : List Pos
deriving Repr, DecidableEq

namespace Board

/-- The board of a state in which nobody was struck. -/
def ofState (state : RunState) : Board := ⟨state.world, state.actors, []⟩

/-- Change one actor; an unknown number changes nothing. -/
def updateActor (b : Board) (actor : Nat) (f : Actor → Actor) : Board :=
  { b with actors := b.actors.modify actor f }

/-- Take in one event.  Announcements move the actors; reports change the
world. -/
def apply (b : Board) : RunEvent → Board
  | .actorAdvanced actor _ target | .actorJumped actor _ target =>
      b.updateActor actor fun a => { a with pos := target }
  | .actorTurned actor _ facing => b.updateActor actor fun a => { a with facing := facing }
  | .actorStruck _ pos _ => { b with struck := b.struck ++ [pos] }
  | .coinCollected _ pos => { b with world := (b.world.enter pos).1 }
  | .hazardsToggled groups _ => { b with world := b.world.toggle groups }
  | .actorBlocked _ _ _ _ | .coinsUneaten _ => b

/-- Take in several events in order. -/
def replay (b : Board) (events : List RunEvent) : Board := events.foldl apply b

end Board

end Beamwalk
