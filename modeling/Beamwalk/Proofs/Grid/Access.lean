/-
Module: Beamwalk.Proofs.Grid.Access
Purpose: The ways to look into a grid, reduced to looking up one position.
Main exports: Grid.contains_iff, Grid.get?_modify, Grid.get?_foldl_set, Grid.mem_scan,
  Grid.count_set, Grid.scan_of_get?, Grid.ext_get?
-/
import Beamwalk.Grid

namespace Beamwalk.Grid

variable {α β : Type} {g : Grid α} {p q : Pos}

theorem contains_iff : g.contains p = true ↔ ∃ v, g.get? p = some v := by
  rw [← Option.isSome_iff_exists, Option.isSome_iff_ne_none, Ne, get?_eq_none_iff]
  simp

theorem contains_of_get? {v : α} (h : g.get? p = some v) : g.contains p = true :=
  contains_iff.2 ⟨v, h⟩

/-- A position with a cell is inside the bounds. -/
theorem bounds_of_get? {v : α} (h : g.get? p = some v) : p.row < g.height ∧ p.col < g.width := by
  simpa [contains] using contains_of_get? h

theorem contains_congr {h : Grid β} (hwidth : g.width = h.width) (hheight : g.height = h.height)
    (p : Pos) : g.contains p = h.contains p := by
  rw [contains, contains, hwidth, hheight]

@[simp] theorem width_modify (g : Grid α) (p : Pos) (f : α → α) :
    (g.modify p f).width = g.width := by
  unfold modify
  split
  · exact width_set ..
  · rfl

@[simp] theorem height_modify (g : Grid α) (p : Pos) (f : α → α) :
    (g.modify p f).height = g.height := by
  unfold modify
  split
  · exact height_set ..
  · rfl

/-- Changing one cell is seen at that cell only. -/
theorem get?_modify (g : Grid α) (p q : Pos) (f : α → α) :
    (g.modify p f).get? q = if q = p then (g.get? q).map f else g.get? q := by
  unfold modify
  cases hp : g.get? p with
  | none =>
      by_cases hq : q = p
      · subst hq
        simp [hp]
      · simp [hq]
  | some v =>
      rw [get?_set]
      by_cases hq : q = p
      · subst hq
        simp [hp, contains_of_get? hp]
      · simp [hq]

/-! ### Reading row by row -/

/-- Division takes the places of a table into its bounds. -/
theorem place_bounds {width height i : Nat} (h : i < width * height) :
    i / width < height ∧ i % width < width := by
  have hwidth : 0 < width := by
    rcases Nat.eq_zero_or_pos width with hzero | hpos
    · simp [hzero] at h
    · exact hpos
  exact ⟨Nat.div_lt_of_lt_mul h, Nat.mod_lt _ hwidth⟩

/-- The places of the storage are positions of the grid. -/
theorem contains_place {i : Nat} (h : i < g.width * g.height) :
    g.contains ⟨i / g.width, i % g.width⟩ = true := by
  simpa [contains] using place_bounds h

theorem index_place (i : Nat) : g.index ⟨i / g.width, i % g.width⟩ = i := by
  simp only [index]
  exact Nat.div_add_mod' i g.width

/-- The cell at a place of the storage. -/
theorem get?_place {i : Nat} (h : i < g.width * g.height) :
    g.get? ⟨i / g.width, i % g.width⟩ = g.cells[i]? := by
  rw [get?_eq_getElem?, if_pos (contains_place h), index_place]

/-- A scan meets the places of the storage in order. -/
theorem getElem?_scan (g : Grid α) (i : Nat) :
    g.scan[i]? = g.cells[i]?.map fun v => (⟨i / g.width, i % g.width⟩, v) := by
  simp [scan, stored, StoredGrid.scan, List.getElem?_zipIdx, Function.comp_def]

/-- A scan meets every cell, each with its position. -/
theorem mem_scan {v : α} : (p, v) ∈ g.scan ↔ g.get? p = some v := by
  constructor
  · intro h
    obtain ⟨i, hi⟩ := List.getElem?_of_mem h
    rw [getElem?_scan] at hi
    obtain ⟨w, hw, heq⟩ := Option.map_eq_some_iff.1 hi
    cases heq
    have hlt : i < g.width * g.height := by
      rw [← g.size_eq]
      exact (Array.getElem?_eq_some_iff.1 hw).1
    rw [get?_place hlt, hw]
  · intro h
    have hp := contains_of_get? h
    have hplace : (⟨g.index p / g.width, g.index p % g.width⟩ : Pos) = p := by
      have hlt : g.index p < g.width * g.height := by
        rw [← g.size_eq]
        exact index_lt hp
      exact index_inj (contains_place hlt) hp (index_place _)
    rw [get?_eq_getElem?, if_pos hp] at h
    apply List.mem_of_getElem? (i := g.index p)
    rw [getElem?_scan, h, hplace]
    rfl

/-- The cells of a scan are those of the storage. -/
theorem map_snd_scan (g : Grid α) : g.scan.map Prod.snd = g.cells.toList := by
  have hcell : (Prod.snd ∘ fun e : α × Nat => ((⟨e.2 / g.width, e.2 % g.width⟩ : Pos), e.1)) =
      Prod.fst := rfl
  rw [scan, StoredGrid.scan, stored, List.map_map, hcell, List.zipIdx_map_fst]

theorem count_eq_countP_scan (g : Grid α) (test : α → Bool) :
    g.count test = g.scan.countP fun e => test e.2 := by
  have hcells : g.cells.countP test = (g.scan.map Prod.snd).countP test := by
    rw [map_snd_scan, Array.countP_toList]
  rw [count, hcells, List.countP_map]
  rfl

/-- Writing a cell takes its old value out of a count and the new one in. -/
theorem count_set {old : α} (h : g.get? p = some old) (new : α) (test : α → Bool) :
    (g.set p new).count test + (test old).toNat = g.count test + (test new).toNat := by
  have hp := contains_of_get? h
  have hlt := index_lt hp
  have hcell : g.cells[g.index p] = old := by
    rw [get?_eq_getElem?, if_pos hp, Array.getElem?_eq_getElem hlt] at h
    exact Option.some.inj h
  have hcells : (g.set p new).cells = g.cells.set (g.index p) new hlt := by simp [set, hp]
  have hset := Array.countP_set (p := test) (a := new) hlt
  have hcounted : test old = true → 0 < g.cells.countP test := by
    intro hold
    exact Array.countP_pos_iff.2 ⟨old, hcell ▸ Array.getElem_mem hlt, hold⟩
  rw [hcell] at hset
  rw [count, count, hcells, hset]
  cases hold : test old with
  | false => cases test new <;> simp
  | true =>
      have hpos := hcounted hold
      cases test new <;> simp <;> omega

/-- A grid that shows, at every position, what another one makes of its cell
there, is scanned in the same way. -/
theorem scan_of_get? {h : Grid β} (hwidth : h.width = g.width) (hheight : h.height = g.height)
    (f : Pos → α → β) (hget : ∀ p, h.get? p = (g.get? p).map (f p)) :
    h.scan = g.scan.map fun e => (e.1, f e.1 e.2) := by
  apply List.ext_getElem?
  intro i
  rw [List.getElem?_map, getElem?_scan, getElem?_scan, hwidth]
  by_cases hi : i < g.width * g.height
  · have hi' : i < h.width * h.height := by rwa [hwidth, hheight]
    have hplace := hget ⟨i / g.width, i % g.width⟩
    rw [get?_place hi] at hplace
    rw [← get?_place hi', hwidth, hplace]
    cases g.cells[i]? with
    | none => rfl
    | some v => rfl
  · have hg := g.size_eq
    have hh := h.size_eq
    rw [hwidth, hheight] at hh
    rw [Array.getElem?_eq_none (by omega), Array.getElem?_eq_none (by omega)]
    rfl

/-- Writing one value to several positions. -/
theorem get?_foldl_set (ps : List Pos) (g : Grid α) (v : α) (q : Pos) :
    (ps.foldl (fun cells p => cells.set p v) g).get? q =
      if q ∈ ps ∧ g.contains q = true then some v else g.get? q := by
  induction ps generalizing g with
  | nil => simp
  | cons p rest ih =>
      rw [List.foldl_cons, ih, contains_set, get?_set]
      by_cases hrest : q ∈ rest ∧ g.contains q = true
      · rw [if_pos hrest, if_pos ⟨List.mem_cons_of_mem _ hrest.1, hrest.2⟩]
      · rw [if_neg hrest]
        by_cases hq : q = p
        · subst hq
          simp
        · simp only [hq, false_and, if_false, List.mem_cons, false_or]
          rw [if_neg hrest]

@[simp] theorem width_foldl_set (ps : List Pos) (g : Grid α) (v : α) :
    (ps.foldl (fun cells p => cells.set p v) g).width = g.width := by
  induction ps generalizing g with
  | nil => rfl
  | cons p rest ih => rw [List.foldl_cons, ih, width_set]

@[simp] theorem height_foldl_set (ps : List Pos) (g : Grid α) (v : α) :
    (ps.foldl (fun cells p => cells.set p v) g).height = g.height := by
  induction ps generalizing g with
  | nil => rfl
  | cons p rest ih => rw [List.foldl_cons, ih, height_set]

/-- Two grids of one size that look the same everywhere are the same. -/
theorem ext_get? {g h : Grid α} (hwidth : g.width = h.width) (hheight : g.height = h.height)
    (hget : ∀ p, g.get? p = h.get? p) : g = h := by
  have hcells : g.cells = h.cells := by
    apply Array.ext_getElem?
    intro i
    by_cases hi : i < g.width * g.height
    · have hi' : i < h.width * h.height := by rwa [hwidth, hheight] at hi
      rw [← get?_place hi, ← get?_place hi', hwidth]
      exact hget _
    · have hg := g.size_eq
      have hh := h.size_eq
      rw [← hwidth, ← hheight] at hh
      rw [Array.getElem?_eq_none (by omega), Array.getElem?_eq_none (by omega)]
  obtain ⟨width, height, cells, size_eq⟩ := g
  obtain ⟨width', height', cells', size_eq'⟩ := h
  simp only at hwidth hheight hcells
  subst hwidth hheight hcells
  rfl

end Beamwalk.Grid
