/-
Module: Beamwalk.Outcome
Purpose: How a run ends.
Main exports: FailureReason, Outcome, Outcome.text
-/
import Beamwalk.Geometry

namespace Beamwalk

/-- Why a run failed. -/
inductive FailureReason where
  | offGrid (actor : Nat) (source : Pos)
  | blocked (actor : Nat) (pos : Pos)
  | struck (actor : Nat) (pos : Pos)
  | coinsUneaten (remaining : Nat)
deriving Repr, Inhabited, DecidableEq

namespace FailureReason

/-- The sentence shown to the player. -/
def text : FailureReason → String
  | .offGrid actor source => s!"actor {actor} walked off the grid from {source.text}"
  | .blocked actor pos => s!"actor {actor} ran into a hazard source at {pos.text}"
  | .struck actor pos => s!"actor {actor} was struck by a lazer at {pos.text}"
  | .coinsUneaten remaining => s!"dots left uneaten ({remaining} remaining)"

end FailureReason

/-- The end of a run. -/
inductive Outcome where
  | success
  | failure (reason : FailureReason)
  | cancelled
deriving Repr, Inhabited, DecidableEq

namespace Outcome

/-- The level is solved. -/
def isSuccess : Outcome → Bool
  | .success => true
  | _ => false

/-- The line shown to the player. -/
def text : Outcome → String
  | .success => "success"
  | .failure reason => s!"failure: {reason.text}"
  | .cancelled => "cancelled"

end Outcome

end Beamwalk
