/-
Module: Beamwalk.Grid
Purpose: Dense rectangular grids with checked access.
Main exports: Grid, Grid.filled, Grid.ofRows, Grid.stored, Grid.get?, Grid.set, Grid.scan,
  Grid.rows
-/
import Beamwalk.Grid.Stored

namespace Beamwalk

/-!
A grid stores its cells row by row in one array whose length is part of the
type, so that a position inside the bounds always has a cell.  Everything a
reader of this library does with a grid goes through `get?`, `set`, `scan` and
`rows`; the index arithmetic stays in this module and in `Grid.Stored`, which
says what a grid is in memory.
-/

/-- A `width` by `height` table of cells. -/
structure Grid (α : Type) where
  width : Nat
  height : Nat
  /-- The rows, one after the other. -/
  cells : Array α
  size_eq : cells.size = width * height
deriving Repr, DecidableEq

namespace Grid

variable {α β : Type}

/-- Every cell holds the same value.  The size is that of a grid whose cells can be counted by
a machine word, such as one that exists already; `StoredGrid.filled` takes any size. -/
def filled (width height : Nat) (value : α) : Grid α where
  width := width
  height := height
  cells := Array.replicate (width * height) value
  size_eq := Array.size_replicate

instance [Inhabited α] : Inhabited (Grid α) := ⟨filled 0 0 default⟩

/-- All rows are as long as the first one. -/
def Rectangular (rows : List (List α)) : Prop :=
  ∀ row ∈ rows, row.length = (rows.head?.map List.length).getD 0

instance (rows : List (List α)) : Decidable (Rectangular rows) :=
  inferInstanceAs (Decidable (∀ row ∈ rows, row.length = _))

theorem length_flatten_of_forall {n : Nat} {rows : List (List α)}
    (h : ∀ row ∈ rows, row.length = n) : rows.flatten.length = n * rows.length := by
  induction rows with
  | nil => simp
  | cons row rows ih =>
    have hrow := h row (by simp)
    have hrest := ih fun r hr => h r (by simp [hr])
    simp [hrow, hrest, Nat.mul_add, Nat.add_comm]

/-- The grid drawn by rectangular rows; its width is that of the first row. -/
def ofRows (rows : List (List α)) (h : Rectangular rows) : Grid α where
  width := (rows.head?.map List.length).getD 0
  height := rows.length
  cells := rows.flatten.toArray
  size_eq := by simpa using length_flatten_of_forall h

/-- The grid as it lies in memory. -/
def stored (g : Grid α) : StoredGrid α := ⟨g.width, g.height, g.cells⟩

/-- The position is inside the bounds. -/
def contains (g : Grid α) (p : Pos) : Bool := p.row < g.height && p.col < g.width

/-- Where the cell at a position is stored. -/
def index (g : Grid α) (p : Pos) : Nat := p.row * g.width + p.col

theorem index_lt {g : Grid α} {p : Pos} (h : g.contains p = true) :
    g.index p < g.cells.size := by
  simp only [contains, Bool.and_eq_true, decide_eq_true_eq] at h
  rw [g.size_eq, index]
  calc p.row * g.width + p.col
      < p.row * g.width + g.width := by omega
    _ = g.width * (p.row + 1) := by rw [Nat.mul_add, Nat.mul_comm, Nat.mul_one]
    _ ≤ g.width * g.height := Nat.mul_le_mul_left _ h.1

/-- The cell at a position, `none` outside the bounds. -/
def get? (g : Grid α) (p : Pos) : Option α :=
  if h : g.contains p = true then
    have := index_lt h
    some g.cells[g.index p]
  else none

/-- Replace one cell; outside the bounds nothing happens. -/
def set (g : Grid α) (p : Pos) (value : α) : Grid α :=
  if h : g.contains p = true then
    { g with
      cells := g.cells.set (g.index p) value (index_lt h)
      size_eq := by rw [Array.size_set]; exact g.size_eq }
  else g

/-- Change one cell by a function of its value. -/
def modify (g : Grid α) (p : Pos) (f : α → α) : Grid α :=
  match g.get? p with
  | some value => g.set p (f value)
  | none => g

/-- Every position of the grid, row by row and from left to right. -/
def positions (g : Grid α) : List Pos :=
  (List.range (g.width * g.height)).map fun i => ⟨i / g.width, i % g.width⟩

/-- The positions paired with their cells, in the same order. -/
def scan (g : Grid α) : List (Pos × α) := g.stored.scan

/-- The cells as rows.  A grid without columns has no rows to show. -/
def rows (g : Grid α) : List (List α) := g.stored.rows

/-- How many cells satisfy a test. -/
def count (g : Grid α) (test : α → Bool) : Nat := g.cells.countP test

@[simp] theorem width_set (g : Grid α) (p : Pos) (v : α) : (g.set p v).width = g.width := by
  unfold set; split <;> rfl

@[simp] theorem height_set (g : Grid α) (p : Pos) (v : α) : (g.set p v).height = g.height := by
  unfold set; split <;> rfl

@[simp] theorem contains_set (g : Grid α) (p q : Pos) (v : α) :
    (g.set p v).contains q = g.contains q := by
  simp [contains]

/-! ### What `get?` sees -/

theorem get?_eq_none_iff {g : Grid α} {p : Pos} : g.get? p = none ↔ g.contains p = false := by
  unfold get?; split <;> simp_all

theorem get?_eq_getElem? (g : Grid α) (p : Pos) :
    g.get? p = if g.contains p then g.cells[g.index p]? else none := by
  unfold get?
  split
  · next h => exact (Array.getElem?_eq_getElem (index_lt h)).symm
  · rfl

/-- Different positions are stored in different places. -/
theorem index_inj {g : Grid α} {p q : Pos} (hp : g.contains p = true) (hq : g.contains q = true)
    (h : g.index p = g.index q) : p = q := by
  obtain ⟨pr, pc⟩ := p
  obtain ⟨qr, qc⟩ := q
  simp only [contains, Bool.and_eq_true, decide_eq_true_eq] at hp hq
  simp only [index] at h
  have hrow : pr = qr := by
    rcases Nat.lt_trichotomy pr qr with hlt | heq | hgt
    · have := Nat.mul_le_mul_right g.width (Nat.succ_le_of_lt hlt)
      rw [Nat.succ_mul] at this
      omega
    · exact heq
    · have := Nat.mul_le_mul_right g.width (Nat.succ_le_of_lt hgt)
      rw [Nat.succ_mul] at this
      omega
  subst hrow
  rw [Nat.add_left_cancel h]

/-- A uniform grid shows its value wherever it has a cell. -/
theorem get?_filled (width height : Nat) (value : α) (p : Pos) :
    (filled width height value).get? p =
      if (filled width height value).contains p then some value else none := by
  rw [get?_eq_getElem?]
  split
  · next h =>
    rw [Array.getElem?_eq_getElem (index_lt h)]
    simp [filled]
  · rfl

/-- Writing is seen at the position that was written, and nowhere else. -/
theorem get?_set (g : Grid α) (p q : Pos) (v : α) :
    (g.set p v).get? q = if q = p ∧ g.contains p then some v else g.get? q := by
  by_cases hp : g.contains p = true
  · by_cases hq : g.contains q = true
    · have hcells : (g.set p v).cells = g.cells.set (g.index p) v (index_lt hp) := by
        simp [set, hp]
      have hindex : (g.set p v).index q = g.index q := by simp [index]
      rw [get?_eq_getElem?, get?_eq_getElem?, contains_set, if_pos hq, if_pos hq, hcells, hindex,
        Array.getElem?_set]
      by_cases hqp : q = p
      · subst hqp
        simp [hp]
      · have hne : g.index p ≠ g.index q := fun h => hqp (index_inj hq hp h.symm)
        simp [hqp, hne]
    · have hnone : (g.set p v).get? q = none := by
        rw [get?_eq_none_iff, contains_set]
        simpa using hq
      have hne : q ≠ p := fun h => hq (h ▸ hp)
      rw [hnone, if_neg fun h => hne h.1, get?_eq_none_iff.2 (by simpa using hq)]
  · have hsame : g.set p v = g := by simp [set, hp]
    rw [hsame, if_neg fun h => hp h.2]

end Grid

end Beamwalk
