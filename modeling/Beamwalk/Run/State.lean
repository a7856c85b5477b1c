/-
Module: Beamwalk.Run.State
Purpose: The state that a run changes.
Main exports: RunState, RunState.ofLevel
-/
import Beamwalk.Actor

namespace Beamwalk

/-- The world and the actors in it. -/
structure RunState where
  world : World
  actors : List Actor
deriving Repr, DecidableEq

/-- The state of a level before the first command: actors stand where the start
markers were. -/
def RunState.ofLevel (level : Level) : RunState :=
  let (world, actors) := spawn (World.ofLevel level)
  ⟨world, actors⟩

end Beamwalk
