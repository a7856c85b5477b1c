/-
Module: Beamwalk.Hazard.State
Purpose: Hazard groups that are switched on and off during a run.
Main exports: HazardState, HazardState.start, HazardState.toggle, HazardState.isLive
-/
import Beamwalk.Hazard.Field

namespace Beamwalk

/-- The switches, the precedence that the order of switching gave the groups,
and the field that follows from both. -/
structure HazardState where
  enabled : Switches
  order : GroupOrder
  field : Field
deriving Repr, DecidableEq

namespace HazardState

/-- The state in which a run starts. -/
def start (cells : Grid CellKind) (enabled : Switches) : HazardState :=
  let order := GroupOrder.initial enabled
  { enabled := enabled
    order := order
    field := Field.derive cells enabled order }

/-- Flip every group of the set, then settle the order and the field anew. -/
def toggle (h : HazardState) (groups : GroupSet) (cells : Grid CellKind) : HazardState :=
  let enabled := h.enabled.flip groups
  let order := h.order.resorted enabled
  { enabled := enabled
    order := order
    field := Field.derive cells enabled order }

/-- Whether a position is on the grid and crossed by a beam. -/
def isLive (h : HazardState) (p : Pos) : Bool := (h.field.get? p).any Beams.isLive

end HazardState

end Beamwalk
