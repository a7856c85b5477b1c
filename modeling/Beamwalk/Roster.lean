/-
Module: Beamwalk.Roster
Purpose: The identities that actors can take.
Main exports: ActorColor, roster
-/

namespace Beamwalk

/-- The colour that tells an actor from the others. -/
inductive ActorColor where
  | orange
  | violet
  | teal
  | pink
deriving Repr, Inhabited, DecidableEq

/-- The colours in the order in which actors receive them.  A level has no
more actors than there are colours. -/
def roster : List ActorColor := [.orange, .violet, .teal, .pink]

end Beamwalk
