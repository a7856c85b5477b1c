/-
Module: Beamwalk.Proofs.Grid.Rows
Purpose: Grids as lists of rows.
Main exports: Grid.get?_ofRows, Grid.rows_eq, Grid.getElem?_rows, Grid.length_rows,
  Grid.length_of_mem_rows
-/
import Beamwalk.Proofs.Grid.Access

namespace Beamwalk.Grid

variable {α : Type} {g : Grid α}

/-- Rows of one length, written one after the other. -/
theorem getElem?_flatten_of_forall {n row col : Nat} {rows : List (List α)}
    (h : ∀ r ∈ rows, r.length = n) (hcol : col < n) :
    rows.flatten[row * n + col]? = rows[row]?.bind (·[col]?) := by
  induction rows generalizing row with
  | nil => simp
  | cons first rest ih =>
      have hfirst : first.length = n := h first (by simp)
      rw [List.flatten_cons]
      cases row with
      | zero => rw [Nat.zero_mul, Nat.zero_add, List.getElem?_append_left (by omega)]; rfl
      | succ row =>
          have hplace : (row + 1) * n + col = first.length + (row * n + col) := by
            rw [hfirst, Nat.succ_mul]
            omega
          rw [hplace, List.getElem?_append_right (Nat.le_add_right _ _), Nat.add_sub_cancel_left]
          exact ih fun r hr => h r (by simp [hr])

/-- A grid that was drawn by rows shows them. -/
theorem get?_ofRows {rows : List (List α)} (h : Rectangular rows) (p : Pos) :
    (ofRows rows h).get? p = rows[p.row]?.bind (·[p.col]?) := by
  rw [get?_eq_getElem?]
  by_cases hp : (ofRows rows h).contains p = true
  · have hcol : p.col < (rows.head?.map List.length).getD 0 := by
      simp only [contains, Bool.and_eq_true, decide_eq_true_eq] at hp
      exact hp.2
    rw [if_pos hp]
    simpa [index, ofRows] using getElem?_flatten_of_forall h hcol
  · rw [if_neg hp]
    cases hrow : rows[p.row]? with
    | none => rfl
    | some r =>
        have hlength : r.length = (ofRows rows h).width := h r (List.mem_of_getElem? hrow)
        have hlt : p.row < (ofRows rows h).height := (List.getElem?_eq_some_iff.1 hrow).1
        simp only [contains, Bool.and_eq_true, decide_eq_true_eq, not_and] at hp
        rw [Option.bind_some, List.getElem?_eq_none]
        have := hp hlt
        omega

/-- A row ends inside the storage. -/
theorem row_end_le {row : Nat} (hrow : row < g.height) :
    row * g.width + g.width ≤ g.cells.size := by
  rw [g.size_eq, Nat.mul_comm g.width, ← Nat.succ_mul]
  exact Nat.mul_le_mul_right _ hrow

/-- Cells that fill whole pieces are cut into as many pieces as they fill. -/
theorem pieces_eq {length n : Nat} {cells : Array α} (hlength : 0 < length)
    (hsize : cells.size = length * n) :
    StoredGrid.pieces length cells = (List.range n).map fun i =>
      (cells.extract (i * length) (i * length + length)).toList := by
  have hcount : (length * n + (length - 1)) / length = n := by
    rw [Nat.mul_add_div hlength, Nat.div_eq_of_lt (by omega), Nat.add_zero]
  rw [StoredGrid.pieces, hsize, hcount]

/-- Each row of a grid is a piece of its storage. -/
theorem rows_eq (g : Grid α) :
    g.rows = if g.width = 0 then []
      else (List.range g.height).map fun r =>
        (g.cells.extract (r * g.width) (r * g.width + g.width)).toList := by
  rw [rows, StoredGrid.rows, stored]
  split
  · next hwidth =>
      have hsize : g.cells.size = 1 * 0 := by rw [g.size_eq, hwidth, Nat.zero_mul]
      rw [hwidth]
      exact pieces_eq Nat.one_pos hsize
  · next hwidth =>
      rw [Nat.max_eq_left (Nat.one_le_iff_ne_zero.2 hwidth)]
      exact pieces_eq (Nat.pos_of_ne_zero hwidth) g.size_eq

/-- The rows of a grid show what the grid shows. -/
theorem getElem?_rows (hwidth : g.width ≠ 0) (p : Pos) :
    g.rows[p.row]?.bind (·[p.col]?) = g.get? p := by
  rw [rows_eq, if_neg hwidth, List.getElem?_map, get?_eq_getElem?]
  by_cases hrow : p.row < g.height
  · rw [List.getElem?_range hrow, Option.map_some, Option.bind_some, Array.getElem?_toList,
      Array.getElem?_extract, Nat.min_eq_left (row_end_le hrow), Nat.add_sub_cancel_left]
    simp [contains, hrow, index]
  · rw [List.getElem?_eq_none (by simpa using hrow)]
    simp [contains, hrow]

theorem length_rows (hwidth : g.width ≠ 0) : g.rows.length = g.height := by
  simp [rows_eq, hwidth]

theorem length_of_mem_rows {row : List α} (h : row ∈ g.rows) : row.length = g.width := by
  rw [rows_eq] at h
  split at h
  · cases h
  · obtain ⟨r, hr, rfl⟩ := List.mem_map.1 h
    rw [Array.length_toList, Array.size_extract, Nat.min_eq_left (row_end_le (List.mem_range.1 hr)),
      Nat.add_sub_cancel_left]

end Beamwalk.Grid
