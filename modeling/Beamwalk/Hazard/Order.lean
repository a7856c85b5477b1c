/-
Module: Beamwalk.Hazard.Order
Purpose: Which hazard group is served first.
Main exports: GroupOrder, GroupOrder.resorted, GroupOrder.initial
-/
import Beamwalk.Level.Group

namespace Beamwalk

/-- The groups by precedence, the first one served first. -/
structure GroupOrder where
  groups : List Group
deriving Repr, Inhabited, DecidableEq

namespace GroupOrder

/-- The groups that are on, then those that are off, each part in the order it
had before.  A group that is switched on thereby queues behind all groups that
already were. -/
def resorted (order : GroupOrder) (enabled : Switches) : GroupOrder :=
  ⟨order.groups.filter enabled.get ++ order.groups.filter fun g => !enabled.get g⟩

/-- The order at the start of a run. -/
def initial (enabled : Switches) : GroupOrder := resorted ⟨Group.all⟩ enabled

end GroupOrder

end Beamwalk
