/-
Module: Beamwalk.Proofs.Plane
Purpose: The plane in which levels lie: places with coordinates of either sign, and the ways
  between neighbouring places, which quarter turns rotate.
Main exports: Spot, Offset, Direction.offset, Turn.rotate, Spot.moved, Spot.pos?_moved_ofPos,
  Pos.step_eq_some_iff, Offset.offset_apply, Offset.offset_eq_opposite_iff
-/
import Beamwalk.Geometry

namespace Beamwalk

/-!
Positions have no negative coordinates, so a step from one can fail, and facings are names
that turns permute.  The plane knows neither: its places have coordinates of either sign, a
facing is the way to the cell ahead, and a turn rotates that way.  What is asserted of moves
and turns in these terms is asserted of them as movements in the plane.
-/

/-- A place in the plane in which a level lies. -/
structure Spot where
  row : Int
  col : Int
deriving Repr, Inhabited, DecidableEq

/-- The way from one place to another. -/
structure Offset where
  rows : Int
  cols : Int
deriving Repr, Inhabited, DecidableEq

/-- The way to the next cell ahead: rows grow southwards and columns grow eastwards. -/
def Direction.offset : Direction → Offset
  | .north => ⟨-1, 0⟩
  | .south => ⟨1, 0⟩
  | .east => ⟨0, 1⟩
  | .west => ⟨0, -1⟩

namespace Offset

/-- A quarter turn that leads from north to east. -/
def clockwise (o : Offset) : Offset := ⟨o.cols, -o.rows⟩

/-- A quarter turn that leads from north to west. -/
def counterclockwise (o : Offset) : Offset := ⟨-o.cols, o.rows⟩

/-- The way back. -/
def opposite (o : Offset) : Offset := ⟨-o.rows, -o.cols⟩

end Offset

/-- The rotation of the plane that a turn stands for. -/
def Turn.rotate : Turn → Offset → Offset
  | .left => Offset.counterclockwise
  | .right => Offset.clockwise
  | .around => Offset.opposite

namespace Spot

/-- The place of a position. -/
def ofPos (p : Pos) : Spot := ⟨p.row, p.col⟩

/-- The position of a place that is neither north nor west of all positions. -/
def pos (s : Spot) : Pos := ⟨s.row.toNat, s.col.toNat⟩

/-- The position of a place, `none` where there is none. -/
def pos? (s : Spot) : Option Pos := if 0 ≤ s.row ∧ 0 ≤ s.col then some s.pos else none

/-- The place that a way leads to when it is gone several times. -/
def moved (s : Spot) (way : Offset) (times : Nat) : Spot :=
  ⟨s.row + times * way.rows, s.col + times * way.cols⟩

theorem pos?_eq_some_iff {s : Spot} {p : Pos} : s.pos? = some p ↔ s = ofPos p := by
  obtain ⟨row, col⟩ := s
  obtain ⟨prow, pcol⟩ := p
  simp only [pos?, pos, ofPos, Option.ite_none_right_eq_some, Option.some.injEq, Pos.mk.injEq,
    Spot.mk.injEq]
  omega

/-- Positions step as the plane does, up to its edges. -/
theorem pos?_moved_ofPos (p : Pos) (d : Direction) (distance : Nat) :
    ((ofPos p).moved d.offset distance).pos? = p.step d distance := by
  apply Option.ext
  intro q
  rw [pos?_eq_some_iff]
  obtain ⟨row, col⟩ := p
  obtain ⟨qrow, qcol⟩ := q
  cases d with
  | north =>
      simp only [ofPos, moved, Direction.offset, Pos.step, Spot.mk.injEq,
        Option.ite_none_right_eq_some, Option.some.injEq, Pos.mk.injEq]
      omega
  | south =>
      simp only [ofPos, moved, Direction.offset, Pos.step, Spot.mk.injEq, Option.some.injEq,
        Pos.mk.injEq]
      omega
  | east =>
      simp only [ofPos, moved, Direction.offset, Pos.step, Spot.mk.injEq, Option.some.injEq,
        Pos.mk.injEq]
      omega
  | west =>
      simp only [ofPos, moved, Direction.offset, Pos.step, Spot.mk.injEq,
        Option.ite_none_right_eq_some, Option.some.injEq, Pos.mk.injEq]
      omega

end Spot

/-- A step leads to a position if the way ahead, gone that often, leads to its place. -/
theorem Pos.step_eq_some_iff {p q : Pos} {d : Direction} {distance : Nat} :
    p.step d distance = some q ↔ Spot.ofPos q = (Spot.ofPos p).moved d.offset distance := by
  rw [← Spot.pos?_moved_ofPos, Spot.pos?_eq_some_iff, eq_comm]

namespace Offset

theorem offset_inj {d e : Direction} : d.offset = e.offset ↔ d = e := by
  cases d <;> cases e <;> decide

/-- Turns of facings are rotations of the plane. -/
theorem offset_apply (turn : Turn) (d : Direction) :
    (turn.apply d).offset = turn.rotate d.offset := by
  cases turn <;> cases d <;> rfl

/-- The reversed direction is the way back. -/
theorem offset_reversed (d : Direction) : d.reversed.offset = d.offset.opposite := by
  cases d <;> rfl

theorem offset_eq_opposite_iff {d e : Direction} :
    e.offset = d.offset.opposite ↔ e = d.reversed := by
  rw [← offset_reversed, offset_inj]

end Offset

end Beamwalk
