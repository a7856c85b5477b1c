/-
Module: Beamwalk.Geometry
Purpose: Directions, turns and positions on an unbounded quarter plane.
Main exports: Direction, Turn, Turn.apply, Pos, Pos.step, Pos.addressableStep
-/

namespace Beamwalk

/-!
Rows grow southwards and columns grow eastwards, both from zero.  A position
knows nothing of any grid: a step can only fail by crossing the north or the
west edge, and whether the cell it arrives at exists is the grid's answer.
-/

/-- The four ways an actor can face and a beam can travel. -/
inductive Direction where
  | north
  | east
  | south
  | west
deriving Repr, Inhabited, DecidableEq

namespace Direction

/-- The directions clockwise from north. -/
def all : List Direction := [.north, .east, .south, .west]

/-- A quarter turn clockwise. -/
def right : Direction → Direction
  | .north => .east
  | .east => .south
  | .south => .west
  | .west => .north

/-- A quarter turn counterclockwise. -/
def left : Direction → Direction
  | .north => .west
  | .west => .south
  | .south => .east
  | .east => .north

/-- Half a turn. -/
def reversed : Direction → Direction
  | .north => .south
  | .south => .north
  | .east => .west
  | .west => .east

/-- The name shown to people. -/
def label : Direction → String
  | .north => "North"
  | .east => "East"
  | .south => "South"
  | .west => "West"

@[simp] theorem left_right (d : Direction) : d.left.right = d := by cases d <;> rfl

@[simp] theorem right_left (d : Direction) : d.right.left = d := by cases d <;> rfl

@[simp] theorem reversed_reversed (d : Direction) : d.reversed.reversed = d := by cases d <;> rfl

theorem right_right (d : Direction) : d.right.right = d.reversed := by cases d <;> rfl

theorem mem_all (d : Direction) : d ∈ all := by cases d <;> decide

end Direction

/-- A rotation of a facing. -/
inductive Turn where
  | left
  | right
  | around
deriving Repr, Inhabited, DecidableEq

namespace Turn

/-- The facing after the turn. -/
def apply : Turn → Direction → Direction
  | .left, d => d.left
  | .right, d => d.right
  | .around, d => d.reversed

/-- The name shown to people. -/
def label : Turn → String
  | .left => "Left"
  | .right => "Right"
  | .around => "Around"

end Turn

/-- A cell address: `row` counts from the top, `col` from the left. -/
structure Pos where
  row : Nat
  col : Nat
deriving Repr, Inhabited, DecidableEq

namespace Pos

/-- The position `distance` cells away, or `none` where that would cross the
north or the west edge of the plane. -/
def step (p : Pos) (d : Direction) (distance : Nat) : Option Pos :=
  match d with
  | .north => if distance ≤ p.row then some ⟨p.row - distance, p.col⟩ else none
  | .south => some ⟨p.row + distance, p.col⟩
  | .east => some ⟨p.row, p.col + distance⟩
  | .west => if distance ≤ p.col then some ⟨p.row, p.col - distance⟩ else none

/-- Rows and columns that fit 64 bits, the only ones a grid in memory can have. -/
def addressable (p : Pos) : Bool := p.row < Nat.pow 2 64 && p.col < Nat.pow 2 64

/-- A step that also fails where it would leave the addressable positions. -/
def addressableStep (p : Pos) (d : Direction) (distance : Nat) : Option Pos :=
  (p.step d distance).filter addressable

/-- Written as `(row,col)`. -/
def text (p : Pos) : String := s!"({p.row},{p.col})"

@[simp] theorem step_zero (p : Pos) (d : Direction) : p.step d 0 = some p := by
  cases d <;> simp [step]

/-- A step can be walked back. -/
theorem step_reversed {p q : Pos} {d : Direction} {n : Nat} (h : p.step d n = some q) :
    q.step d.reversed n = some p := by
  obtain ⟨row, col⟩ := p
  cases d
  case north =>
    by_cases hn : n ≤ row
    · simp only [step, hn, if_true, Option.some.injEq] at h
      subst h
      simp [step, Direction.reversed, Nat.sub_add_cancel hn]
    · simp [step, hn] at h
  case west =>
    by_cases hn : n ≤ col
    · simp only [step, hn, if_true, Option.some.injEq] at h
      subst h
      simp [step, Direction.reversed, Nat.sub_add_cancel hn]
    · simp [step, hn] at h
  all_goals
    simp only [step, Option.some.injEq] at h
    subst h
    simp [step, Direction.reversed]

end Pos

end Beamwalk
