/-
Module: Beamwalk.Hazard.Beams
Purpose: The beams that cross one cell, by the side on which they touch it.
Main exports: Beams, Beams.side, Beams.union, Beams.has, Beams.isLive, Beams.bits
-/
import Beamwalk.Geometry

namespace Beamwalk

/-- The sides of a cell that a beam touches. -/
structure Beams where
  north : Bool := false
  south : Bool := false
  east : Bool := false
  west : Bool := false
deriving Repr, Inhabited, DecidableEq

namespace Beams

/-- A cell without beams. -/
def none : Beams := {}

/-- A beam on one side only. -/
def side : Direction → Beams
  | .north => { north := true }
  | .south => { south := true }
  | .east => { east := true }
  | .west => { west := true }

/-- The beams of both. -/
def union (a b : Beams) : Beams :=
  ⟨a.north || b.north, a.south || b.south, a.east || b.east, a.west || b.west⟩

/-- Whether a beam touches the side. -/
def has (b : Beams) : Direction → Bool
  | .north => b.north
  | .south => b.south
  | .east => b.east
  | .west => b.west

/-- Whether any beam touches the cell: standing here is deadly. -/
def isLive (b : Beams) : Bool := b.north || b.south || b.east || b.west

/-- A number with one binary digit for each side: north, south, east, west
from the lowest. -/
def bits (b : Beams) : Nat :=
  b.north.toNat + 2 * b.south.toNat + 4 * b.east.toNat + 8 * b.west.toNat

@[simp] theorem has_none (d : Direction) : none.has d = false := by cases d <;> rfl

@[simp] theorem has_side (d e : Direction) : (side d).has e = decide (d = e) := by
  cases d <;> cases e <;> rfl

@[simp] theorem has_union (a b : Beams) (d : Direction) :
    (a.union b).has d = (a.has d || b.has d) := by cases d <;> rfl

theorem isLive_iff {b : Beams} : b.isLive = true ↔ ∃ d, b.has d = true := by
  constructor
  · intro h
    simp only [isLive, Bool.or_eq_true] at h
    rcases h with ((h | h) | h) | h
    · exact ⟨.north, h⟩
    · exact ⟨.south, h⟩
    · exact ⟨.east, h⟩
    · exact ⟨.west, h⟩
  · rintro ⟨d, h⟩
    cases d <;> simp_all [isLive, has]

end Beams

end Beamwalk
