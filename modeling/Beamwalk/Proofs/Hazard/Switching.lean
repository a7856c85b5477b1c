/-
Module: Beamwalk.Proofs.Hazard.Switching
Purpose: Switching groups on adds beams to those that are there, and switching them off again
  takes nothing else away.
Main exports: Switches.get_flip_of_off, GroupOrder.casters, GroupOrder.casters_resorted,
  GroupOrder.casters_prefix, Field.derive_congr_casters, Field.lit_derive_of_prefix,
  HazardState.resorted_order_after, HazardState.toggle_adds_beams
-/
import Beamwalk.Proofs.Hazard.Precedence

namespace Beamwalk

/-!
A beam can be cut short by the beams that were cast before it and by no others.  So
nothing but the sequence of the groups that cast matters, and a sequence that is
continued leaves the beams where they are.  Switching groups on continues the sequence,
because the order puts them behind all that were on already.
-/

/-- Flipping groups that are off leaves on what is on. -/
theorem Switches.get_flip_of_off {enabled : Switches} {groups : GroupSet}
    (hoff : ∀ g, groups.contains g = true → enabled.get g = false) (g : Group)
    (hon : enabled.get g = true) : (enabled.flip groups).get g = true := by
  have hout : groups.contains g = false := by
    cases hin : groups.contains g with
    | false => rfl
    | true =>
        rw [hoff g hin] at hon
        cases hon
  rw [get_flip, hon, hout]
  rfl

namespace GroupOrder

variable {order : GroupOrder} {enabled enabled' : Switches}

/-- The groups that cast their beams, the first one first. -/
def casters (order : GroupOrder) (enabled : Switches) : List Group :=
  order.groups.filter enabled.get

/-- Putting groups behind others that are on does not change in which order these cast. -/
theorem casters_resorted (hle : ∀ g, enabled.get g = true → enabled'.get g = true) :
    (order.resorted enabled').casters enabled = order.casters enabled := by
  have hon : ∀ g, (enabled.get g && enabled'.get g) = enabled.get g := fun g => by
    simpa using hle g
  have hoff : ∀ g, (enabled.get g && !enabled'.get g) = false := fun g => by
    simpa using hle g
  simp only [casters, resorted, List.filter_append, List.filter_filter, hon, hoff,
    List.filter_false, List.append_nil]

/-- An order that has been settled stays as it is until a switch is changed. -/
theorem resorted_resorted (order : GroupOrder) (enabled : Switches) :
    (order.resorted enabled).resorted enabled = order.resorted enabled := by
  simp [resorted, List.filter_append, List.filter_filter]

/-- In a settled order the groups that are switched on cast behind those that were on. -/
theorem casters_prefix (sorted : order.resorted enabled = order)
    (hle : ∀ g, enabled.get g = true → enabled'.get g = true) :
    order.casters enabled <+: order.casters enabled' := by
  have hfront : (order.casters enabled).filter enabled'.get = order.casters enabled :=
    List.filter_eq_self.2 fun g hg => hle g (List.mem_filter.1 hg).2
  refine ⟨(order.groups.filter fun g => !enabled.get g).filter enabled'.get, ?_⟩
  calc order.casters enabled ++ (order.groups.filter fun g => !enabled.get g).filter enabled'.get
      = (order.resorted enabled).casters enabled' := by
        rw [← hfront]
        exact (List.filter_append ..).symm
    _ = order.casters enabled' := by rw [sorted]

end GroupOrder

namespace Field

variable {cells : Grid CellKind} {enabled enabled' : Switches} {order order' : GroupOrder}
  {c : Casting} {p : Pos} {side : Direction}

/-- The field follows from the sequence of the groups that cast. -/
theorem derive_congr_casters (cells : Grid CellKind)
    (h : order.casters enabled = order'.casters enabled') :
    derive cells enabled order = derive cells enabled' order' :=
  congrArg (fun groups => (groups.foldl (castGroup cells) (.start cells.width cells.height)).beams)
    h

/-- The beams of a group are added to those that are there. -/
theorem lit_castGroup (hsized : c.Sized cells.width cells.height) (group : Group)
    (hlit : c.Lit p side) :
    (castGroup cells c group).Lit p side ∧
      (castGroup cells c group).Sized cells.width cells.height := by
  have hinside : ∀ entry ∈ cells.scan,
      entry.1.row < cells.height ∧ entry.1.col < cells.width := by
    intro entry hentry
    exact Grid.bounds_of_get? (Grid.mem_scan.1 hentry)
  obtain ⟨heffect, hsized'⟩ := castFrom_effect group hsized cells.scan hinside
  exact ⟨(heffect.lit p side).2 (.inl hlit), hsized'⟩

theorem lit_castGroups (hsized : c.Sized cells.width cells.height) (groups : List Group)
    (hlit : c.Lit p side) : (groups.foldl (castGroup cells) c).Lit p side := by
  induction groups generalizing c with
  | nil => exact hlit
  | cons group rest ih =>
      obtain ⟨hlit', hsized'⟩ := lit_castGroup hsized group hlit
      exact ih hsized' hlit'

/-- Groups that cast behind all others leave every side touched that was. -/
theorem lit_derive_of_prefix (h : order.casters enabled <+: order'.casters enabled')
    (hlit : ∃ b, (derive cells enabled order).get? p = some b ∧ b.has side = true) :
    ∃ b, (derive cells enabled' order').get? p = some b ∧ b.has side = true := by
  obtain ⟨behind, hbehind⟩ := h
  have hsized : ((order.casters enabled).foldl (castGroup cells)
      (.start cells.width cells.height)).Sized cells.width cells.height :=
    (settled_derive cells enabled order).sized
  have hmore := lit_castGroups hsized behind hlit
  rw [← List.foldl_append, hbehind] at hmore
  exact hmore

end Field

namespace HazardState

variable {cells : Grid CellKind} {h : HazardState} {groups : GroupSet}

/-- The order has been settled since the last toggle. -/
theorem resorted_order_after (cells : Grid CellKind) (enabled : Switches)
    (toggles : List GroupSet) :
    (after cells enabled toggles).order.resorted (after cells enabled toggles).enabled =
      (after cells enabled toggles).order := by
  induction toggles using List.reverseRecOn with
  | nil => exact GroupOrder.resorted_resorted _ _
  | append_singleton toggles groups _ =>
      rw [after_append_singleton]
      exact GroupOrder.resorted_resorted _ _

/-- A cell is live if a beam touches one of its sides. -/
theorem isLive_iff {p : Pos} : h.isLive p = true ↔
    ∃ side b, h.field.get? p = some b ∧ b.has side = true := by
  rw [isLive, Option.any_eq_true]
  constructor
  · intro hlive
    obtain ⟨b, hb, hb'⟩ := hlive
    obtain ⟨side, hside⟩ := Beams.isLive_iff.1 hb'
    exact ⟨side, b, hb, hside⟩
  · intro hside
    obtain ⟨side, b, hb, hside⟩ := hside
    exact ⟨b, hb, Beams.isLive_iff.2 ⟨side, hside⟩⟩

/-- Switching groups on leaves every side touched that was. -/
theorem lit_toggle_of_off (sorted : h.order.resorted h.enabled = h.order)
    (derived : h.field = Field.derive cells h.enabled h.order)
    (hoff : ∀ g, groups.contains g = true → h.enabled.get g = false) {p : Pos} {side : Direction}
    (hlit : ∃ b, h.field.get? p = some b ∧ b.has side = true) :
    ∃ b, (h.toggle groups cells).field.get? p = some b ∧ b.has side = true := by
  have hle := Switches.get_flip_of_off hoff
  have hprefix : h.order.casters h.enabled <+:
      (h.order.resorted (h.enabled.flip groups)).casters (h.enabled.flip groups) := by
    rw [GroupOrder.casters_resorted fun _ hon => hon]
    exact GroupOrder.casters_prefix sorted hle
  rw [derived] at hlit
  exact Field.lit_derive_of_prefix hprefix hlit

/-- Toggling the same groups twice restores the switches. -/
theorem enabled_toggle_toggle (h : HazardState) (groups : GroupSet) (cells : Grid CellKind) :
    ((h.toggle groups cells).toggle groups cells).enabled = h.enabled :=
  Switches.flip_flip ..

/-- The order is settled for the switches in between and then for those before. -/
theorem order_toggle_toggle (h : HazardState) (groups : GroupSet) (cells : Grid CellKind) :
    ((h.toggle groups cells).toggle groups cells).order =
      (h.order.resorted (h.enabled.flip groups)).resorted h.enabled := by
  simp [toggle]

/-- Switching groups on and off again restores the field: whatever the toggles made of
the order, the groups that cast are those that did, in the same sequence. -/
theorem field_toggle_toggle_of_off (derived : h.field = Field.derive cells h.enabled h.order)
    (hoff : ∀ g, groups.contains g = true → h.enabled.get g = false) :
    ((h.toggle groups cells).toggle groups cells).field = h.field := by
  have hle := Switches.get_flip_of_off hoff
  rw [derived]
  apply Field.derive_congr_casters
  calc ((h.toggle groups cells).toggle groups cells).order.casters
        ((h.toggle groups cells).toggle groups cells).enabled
      = ((h.order.resorted (h.enabled.flip groups)).resorted h.enabled).casters h.enabled := by
        rw [order_toggle_toggle, enabled_toggle_toggle]
    _ = (h.order.resorted (h.enabled.flip groups)).casters h.enabled :=
        GroupOrder.casters_resorted fun _ hon => hon
    _ = h.order.casters h.enabled := GroupOrder.casters_resorted hle

/-- After any toggles, switching on groups that are off leaves every side touched and
every cell live that was.  Toggling the same groups once more restores the switches and
the field. -/
theorem toggle_adds_beams (cells : Grid CellKind) (enabled : Switches) (toggles : List GroupSet)
    (groups : GroupSet)
    (hoff : ∀ g, groups.contains g = true →
      (after cells enabled toggles).enabled.get g = false) :
    let h := after cells enabled toggles
    let on := h.toggle groups cells
    let off := on.toggle groups cells
    (∀ p side, (∃ b, h.field.get? p = some b ∧ b.has side = true) →
        ∃ b, on.field.get? p = some b ∧ b.has side = true) ∧
      (∀ p, h.isLive p = true → on.isLive p = true) ∧
      off.enabled = h.enabled ∧ off.field = h.field := by
  intro h on off
  have sorted := resorted_order_after cells enabled toggles
  have derived := (coherent_after cells enabled toggles).field
  have hlit : ∀ p side, (∃ b, h.field.get? p = some b ∧ b.has side = true) →
      ∃ b, on.field.get? p = some b ∧ b.has side = true := fun p side =>
    lit_toggle_of_off sorted derived hoff
  refine ⟨hlit, fun p hlive => ?_, enabled_toggle_toggle h groups cells,
    field_toggle_toggle_of_off derived hoff⟩
  obtain ⟨side, hside⟩ := isLive_iff.1 hlive
  exact isLive_iff.2 ⟨side, hlit p side hside⟩

/-- Blue, which was ranked behind green, is switched on and off again: only the order
remembers that it was on. -/
theorem toggle_adds_beams_crossing :
    let h := after Field.crossing ⟨true, false, false⟩ [.single .green, .single .green]
    let on := h.toggle (.single .blue) Field.crossing
    let off := on.toggle (.single .blue) Field.crossing
    h.isLive ⟨1, 1⟩ = true ∧ on.isLive ⟨1, 1⟩ = true ∧ on.field ≠ h.field ∧
      off.order ≠ h.order ∧ off.field = h.field := by
  have hoff : ∀ g, (GroupSet.single .blue).contains g = true →
      (after Field.crossing ⟨true, false, false⟩
        [.single .green, .single .green]).enabled.get g = false := by
    intro g
    cases g <;> decide
  obtain ⟨_, hlive, _, hfield⟩ := toggle_adds_beams Field.crossing ⟨true, false, false⟩
    [.single .green, .single .green] (.single .blue) hoff
  refine ⟨by decide, hlive ⟨1, 1⟩ (by decide), by decide, by decide, hfield⟩

end HazardState

end Beamwalk
