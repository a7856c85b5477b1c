/-
Module: Beamwalk.Proofs.Level.Landing
Purpose: What an actor who lands on a cell does to the world.
Main exports: Field.derive_map, World.hazards_enter, World.get?_enter,
  World.isSome_strike_enter, World.enter_cases
-/
import Beamwalk.Actor
import Beamwalk.Proofs.Hazard.Reach

namespace Beamwalk

namespace Field

variable {cells cells' : Grid CellKind}

/-- Changing cells in a way that leaves their beams alone leaves the sources
alone. -/
theorem source_map {f : Pos → CellKind → CellKind}
    (hget : ∀ p, cells'.get? p = (cells.get? p).map (f p))
    (hf : ∀ group p kind, directions group (f p kind) = directions group kind) (group : Group)
    (s : Pos) (d : Direction) : Source cells' group s d ↔ Source cells group s d := by
  rw [source_iff, source_iff, hget]
  cases cells.get? s with
  | none => simp
  | some kind => simp [hf]

/-- Changing cells in a way that leaves their beams alone leaves the field
alone. -/
theorem derive_map {f : Pos → CellKind → CellKind} (hwidth : cells'.width = cells.width)
    (hheight : cells'.height = cells.height)
    (hget : ∀ p, cells'.get? p = (cells.get? p).map (f p))
    (hf : ∀ group p kind, directions group (f p kind) = directions group kind)
    (enabled : Switches) (order : GroupOrder) :
    derive cells' enabled order = derive cells enabled order :=
  derive_congr hwidth hheight (source_map hget hf)

end Field

namespace World

variable {w : World} {p q : Pos}

/-- Landing toggles hazards exactly on a button. -/
theorem hazards_enter (w : World) (p : Pos) :
    (w.enter p).1.hazards =
      match w.cell? p with
      | some (.button groups) => w.hazards.toggle groups w.cells
      | _ => w.hazards := by
  unfold enter
  cases w.cell? p with
  | none => rfl
  | some kind => cases kind <;> rfl

theorem cells_enter (w : World) (p : Pos) :
    (w.enter p).1.cells =
      match w.cell? p with
      | some .coin => w.cells.set p .empty
      | _ => w.cells := by
  unfold enter
  cases w.cell? p with
  | none => rfl
  | some kind => cases kind <;> rfl

/-- Landing eats the coin that lies there and changes no other cell. -/
theorem get?_enter (w : World) (p q : Pos) :
    (w.enter p).1.cells.get? q =
      (w.cells.get? q).map fun kind => if q = p ∧ kind = .coin then .empty else kind := by
  rw [cells_enter]
  by_cases hcoin : w.cells.get? p = some .coin
  · simp only [cell?, hcoin]
    rw [Grid.get?_set]
    by_cases hq : q = p
    · subst hq
      simp [hcoin, Grid.contains_of_get? hcoin]
    · simp [hq]
  · have hsame : (match w.cell? p with
        | some .coin => w.cells.set p .empty
        | _ => w.cells) = w.cells := by
      split
      · rename_i hp
        exact absurd hp hcoin
      · rfl
    rw [hsame]
    cases hq : w.cells.get? q with
    | none => rfl
    | some kind =>
        rw [Option.map_some, if_neg]
        intro h
        rcases h with ⟨rfl, rfl⟩
        exact hcoin hq

theorem width_enter (w : World) (p : Pos) : (w.enter p).1.cells.width = w.cells.width := by
  rw [cells_enter]
  split
  · exact Grid.width_set ..
  · rfl

theorem height_enter (w : World) (p : Pos) : (w.enter p).1.cells.height = w.cells.height := by
  rw [cells_enter]
  split
  · exact Grid.height_set ..
  · rfl

/-- A landing strikes exactly where a beam crosses the cell once the landing has
taken effect. -/
theorem isSome_strike_enter (w : World) (p : Pos) :
    (w.enter p).2.strike.isSome = (w.enter p).1.isLive p := by
  have hstrike : ∀ a : Arrival, a.strike.isSome = a.liveAfter := by
    intro h
    rcases h with ⟨coin, toggled, before, after⟩
    cases before <;> cases after <;> rfl
  rw [hstrike]
  unfold enter
  cases w.cell? p with
  | none => rfl
  | some kind => cases kind <;> rfl

/-- Who lands eats a coin, or he presses a button, or nothing comes of it. -/
theorem enter_cases (w : World) (p : Pos) :
    (w.cell? p = some .coin ∧
      w.enter p = ({ w with cells := w.cells.set p .empty },
        ⟨true, none, w.isLive p, w.isLive p⟩)) ∨
    (∃ groups, w.cell? p = some (.button groups) ∧
      w.enter p = (w.toggle groups,
        ⟨false, some groups, w.isLive p, (w.toggle groups).isLive p⟩)) ∨
    (w.cell? p ≠ some .coin ∧ w.enter p = (w, ⟨false, none, w.isLive p, w.isLive p⟩)) := by
  unfold enter
  cases w.cell? p with
  | none => exact .inr (.inr ⟨by simp, rfl⟩)
  | some kind =>
      cases kind with
      | coin => exact .inl ⟨rfl, rfl⟩
      | button groups => exact .inr (.inl ⟨groups, rfl, rfl⟩)
      | _ => exact .inr (.inr ⟨by simp, rfl⟩)

end World

end Beamwalk
