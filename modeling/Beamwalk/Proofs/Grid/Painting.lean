/-
Module: Beamwalk.Proofs.Grid.Painting
Purpose: Grids that are changed at one position after the other.
Main exports: Grid.get?_foldl_modify, Grid.modify_id, Grid.nodup_positions, Grid.Before,
  Grid.pairwise_positions, Grid.filter_scan
-/
import Mathlib.Data.List.Nodup
import Beamwalk.Proofs.Grid.Access

namespace Beamwalk.Grid

variable {α ι : Type} {g : Grid α}

/-! ### Several changes -/

section foldl_modify

variable (pos : ι → Pos) (f : ι → α → α) (items : List ι) (g : Grid α)

@[simp] theorem width_foldl_modify :
    (items.foldl (fun g i => g.modify (pos i) (f i)) g).width = g.width := by
  induction items generalizing g with
  | nil => rfl
  | cons i rest ih => rw [List.foldl_cons, ih, width_modify]

@[simp] theorem height_foldl_modify :
    (items.foldl (fun g i => g.modify (pos i) (f i)) g).height = g.height := by
  induction items generalizing g with
  | nil => rfl
  | cons i rest ih => rw [List.foldl_cons, ih, height_modify]

/-- A cell goes through the changes that are made at its position, in their order, and
through no others. -/
theorem get?_foldl_modify (q : Pos) :
    (items.foldl (fun g i => g.modify (pos i) (f i)) g).get? q =
      (g.get? q).map fun v => (items.filter fun i => pos i = q).foldl (fun v i => f i v) v := by
  induction items generalizing g with
  | nil => simp
  | cons i rest ih =>
      rw [List.foldl_cons, ih, get?_modify]
      by_cases hi : pos i = q
      · rw [if_pos hi.symm, Option.map_map, List.filter_cons_of_pos (by simpa using hi)]
        rfl
      · rw [if_neg (Ne.symm hi), List.filter_cons_of_neg (by simpa using hi)]

end foldl_modify

theorem modify_id (g : Grid α) (p : Pos) : g.modify p id = g := by
  apply ext_get? (width_modify g p id) (height_modify g p id)
  intro q
  rw [get?_modify, Option.map_id, id, ite_self]

/-! ### The positions of a scan -/

/-- The positions of a grid are met once each: a position tells its place. -/
theorem nodup_positions (g : Grid α) : g.positions.Nodup := by
  apply List.Nodup.map _ List.nodup_range
  intro i j hij
  rw [← g.index_place i, ← g.index_place j]
  exact congrArg g.index hij

/-- The first position is met before the second one when a grid is read row by row and from
left to right. -/
def Before (p q : Pos) : Prop := p.row < q.row ∨ p.row = q.row ∧ p.col < q.col

theorem Before.ne {p q : Pos} (h : Before p q) : p ≠ q := by
  rintro rfl
  rcases h with hrow | ⟨-, hcol⟩
  · exact Nat.lt_irrefl _ hrow
  · exact Nat.lt_irrefl _ hcol

/-- Places in the storage are in the order of their positions. -/
theorem pairwise_positions (g : Grid α) : g.positions.Pairwise Before := by
  rw [positions, List.pairwise_map]
  refine List.pairwise_lt_range.imp ?_
  intro i j hlt
  rcases Nat.lt_or_eq_of_le (Nat.div_le_div_right (c := g.width) (Nat.le_of_lt hlt)) with
    hrow | hrow
  · exact .inl hrow
  · refine .inr ⟨hrow, ?_⟩
    have hi := Nat.div_add_mod i g.width
    have hj := Nat.div_add_mod j g.width
    rw [hrow] at hi
    show i % g.width < j % g.width
    omega

theorem map_fst_scan (g : Grid α) : g.scan.map Prod.fst = g.positions := by
  have hplace : (Prod.fst ∘ fun e : α × Nat => ((⟨e.2 / g.width, e.2 % g.width⟩ : Pos), e.1)) =
      (fun i => ⟨i / g.width, i % g.width⟩) ∘ Prod.snd := rfl
  rw [scan, StoredGrid.scan, stored, List.map_map, hplace, ← List.map_map, List.zipIdx_map_snd,
    Array.length_toList, g.size_eq, ← List.range_eq_range', positions]

/-- What tells the elements of a list apart singles one out. -/
theorem filter_eq_singleton {β γ : Type} [DecidableEq γ] {key : β → γ} {l : List β} {a : β}
    (hkeys : (l.map key).Nodup) (ha : a ∈ l) : (l.filter fun b => key b = key a) = [a] := by
  induction l with
  | nil => cases ha
  | cons b rest ih =>
      rw [List.map_cons, List.nodup_cons] at hkeys
      obtain ⟨hfresh, hrest⟩ := hkeys
      rcases List.mem_cons.1 ha with rfl | hlater
      · rw [List.filter_cons_of_pos (by simp), List.filter_eq_nil_iff.2]
        intro c hc hkey
        rw [← of_decide_eq_true hkey] at hfresh
        exact hfresh (List.mem_map_of_mem hc)
      · have hne : key b ≠ key a := by
          intro hkey
          rw [hkey] at hfresh
          exact hfresh (List.mem_map_of_mem hlater)
        rw [List.filter_cons_of_neg (by simpa using hne)]
        exact ih hrest hlater

/-- A scan meets a position once if it is on the grid, and otherwise never. -/
theorem filter_scan (g : Grid α) (q : Pos) :
    (g.scan.filter fun entry => entry.1 = q) = ((g.get? q).map (q, ·)).toList := by
  cases hget : g.get? q with
  | none =>
      rw [List.filter_eq_nil_iff.2]
      · rfl
      · rintro ⟨p, v⟩ hscan hp
        have hpq : p = q := of_decide_eq_true hp
        rw [mem_scan, hpq, hget] at hscan
        cases hscan
  | some v =>
      have hkeys : (g.scan.map Prod.fst).Nodup := by
        rw [map_fst_scan]
        exact g.nodup_positions
      exact filter_eq_singleton hkeys (mem_scan.2 hget)

end Beamwalk.Grid
