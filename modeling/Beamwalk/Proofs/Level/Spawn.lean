/-
Module: Beamwalk.Proofs.Level.Spawn
Purpose: Where actors start, and what their arrival makes of the start markers.
Main exports: Grid.mem_startMarkers, Grid.length_startMarkers, Grid.pairwise_startMarkers,
  getElem?_spawn, get?_spawn, spawn_of_unmarked, spawn_serves_markers
-/
import Beamwalk.Run.State
import Beamwalk.Proofs.Grid.Painting

namespace Beamwalk

namespace Grid

variable {cells : Grid CellKind}

theorem mem_startMarkers {p : Pos} {facing : Direction} :
    (p, facing) ∈ cells.startMarkers ↔ cells.get? p = some (.start facing) := by
  simp only [startMarkers, List.mem_filterMap, Option.map_eq_some_iff, Prod.exists]
  constructor
  · intro h
    rcases h with ⟨q, kind, hscan, facing', hfacing, heq⟩
    cases heq
    rw [mem_scan] at hscan
    cases kind <;> simp [CellKind.startFacing?] at hfacing
    subst hfacing
    exact hscan
  · intro h
    exact ⟨p, .start facing, mem_scan.2 h, facing, rfl, rfl⟩

/-- There is one start marker for each cell that is one. -/
theorem length_startMarkers (cells : Grid CellKind) : cells.startMarkers.length = cells.starts := by
  rw [starts, count_eq_countP_scan, startMarkers, List.length_filterMap_eq_countP]
  congr 1
  funext e
  cases he : e.2 <;> simp [CellKind.startFacing?, CellKind.isStart]

/-- The start markers come in the order in which a grid is read. -/
theorem pairwise_startMarkers (cells : Grid CellKind) :
    (cells.startMarkers.map Prod.fst).Pairwise Before := by
  have hscan : (cells.scan.map Prod.fst).Pairwise Before := by
    rw [map_fst_scan]
    exact cells.pairwise_positions
  rw [List.pairwise_map] at hscan ⊢
  rw [startMarkers, List.pairwise_filterMap]
  refine hscan.imp fun hbefore marker hmarker marker' hmarker' => ?_
  obtain ⟨facing, -, rfl⟩ := Option.map_eq_some_iff.1 hmarker
  obtain ⟨facing', -, rfl⟩ := Option.map_eq_some_iff.1 hmarker'
  exact hbefore

end Grid

variable {w : World}

/-- The actors are the start markers, numbered in scan order, as far as the
roster goes. -/
theorem getElem?_spawn (w : World) (i : Nat) :
    (spawn w).2[i]? =
      (w.cells.startMarkers.zip roster)[i]?.map fun entry =>
        { id := i, color := entry.2, pos := entry.1.1, facing := entry.1.2 } := by
  simp [spawn, List.getElem?_mapIdx]

/-- If the roster is long enough, every start marker gets an actor. -/
theorem map_spawn (h : w.cells.starts ≤ roster.length) :
    (spawn w).2.map (fun a => (a.pos, a.facing)) = w.cells.startMarkers := by
  rw [← Grid.length_startMarkers] at h
  rw [← List.map_fst_zip h]
  apply List.ext_getElem?
  intro i
  rw [List.getElem?_map, getElem?_spawn, List.getElem?_map, Option.map_map]
  rfl

/-- If the roster is long enough, the actors stand on the start markers. -/
theorem map_pos_spawn (h : w.cells.starts ≤ roster.length) :
    (spawn w).2.map Actor.pos = w.cells.startMarkers.map Prod.fst := by
  rw [← map_spawn h, List.map_map]
  rfl

theorem id_spawn {i : Nat} {a : Actor} (h : (spawn w).2[i]? = some a) : a.id = i := by
  rw [getElem?_spawn] at h
  obtain ⟨entry, _, rfl⟩ := Option.map_eq_some_iff.1 h
  rfl

/-- The actors are numbered from zero. -/
theorem map_id_spawn (w : World) :
    (spawn w).2.map Actor.id = List.range (spawn w).2.length := by
  apply List.ext_getElem?
  intro i
  rw [List.getElem?_map]
  cases hactor : (spawn w).2[i]? with
  | none =>
      rw [List.getElem?_eq_none_iff] at hactor
      rw [List.getElem?_eq_none (by simpa using hactor)]
      rfl
  | some a =>
      have hi : i < (spawn w).2.length := (List.getElem?_eq_some_iff.1 hactor).1
      rw [List.getElem?_range hi, Option.map_some, id_spawn hactor]

/-- If the roster is long enough, the start markers turn into floor, and nothing
else changes. -/
theorem get?_spawn (h : w.cells.starts ≤ roster.length) (p : Pos) :
    (spawn w).1.cells.get? p =
      (w.cells.get? p).map fun kind => if kind.isStart then .empty else kind := by
  have hactors : (spawn w).1.cells =
      ((spawn w).2.map Actor.pos).foldl (fun cells p => cells.set p .empty) w.cells := rfl
  have hmem : p ∈ (spawn w).2.map Actor.pos ↔ ∃ facing, w.cells.get? p = some (.start facing) := by
    rw [map_pos_spawn h, List.mem_map]
    constructor
    · intro h
      rcases h with ⟨⟨q, facing⟩, hq, rfl⟩
      exact ⟨facing, Grid.mem_startMarkers.1 hq⟩
    · intro h
      rcases h with ⟨facing, hfacing⟩
      exact ⟨(p, facing), Grid.mem_startMarkers.2 hfacing, rfl⟩
  rw [hactors, Grid.get?_foldl_set]
  by_cases hstart : ∃ facing, w.cells.get? p = some (.start facing)
  · obtain ⟨facing, hp⟩ := hstart
    rw [if_pos ⟨hmem.2 ⟨facing, hp⟩, Grid.contains_of_get? hp⟩, hp]
    rfl
  · rw [if_neg fun hp => hstart (hmem.1 hp.1)]
    cases hp : w.cells.get? p with
    | none => rfl
    | some kind =>
        cases kind with
        | start facing => exact absurd ⟨facing, hp⟩ hstart
        | _ => rfl

/-- If the roster is long enough, the colours are handed out in its order. -/
theorem map_color_spawn (h : w.cells.starts ≤ roster.length) :
    (spawn w).2.map Actor.color = roster.take w.cells.starts := by
  rw [← Grid.length_startMarkers] at h ⊢
  have hzip : (w.cells.startMarkers.zip roster).map Prod.snd =
      roster.take w.cells.startMarkers.length := by
    rw [List.zip_eq_zip_take_min, Nat.min_eq_left h, List.map_snd_zip]
    rw [List.length_take, List.length_take, Nat.min_self]
    exact Nat.min_le_left ..
  rw [← hzip]
  apply List.ext_getElem?
  intro i
  rw [List.getElem?_map, getElem?_spawn, List.getElem?_map, Option.map_map]
  rfl

/-- Where there is no start marker, nobody appears and nothing changes. -/
theorem spawn_of_unmarked (h : w.cells.startMarkers = []) : spawn w = (w, []) := by
  rw [spawn, h]
  rfl

theorem width_spawn (w : World) : (spawn w).1.cells.width = w.cells.width :=
  Grid.width_foldl_set ..

theorem height_spawn (w : World) : (spawn w).1.cells.height = w.cells.height :=
  Grid.height_foldl_set ..

/-- No start marker is left. -/
theorem startMarkers_spawn (h : w.cells.starts ≤ roster.length) :
    (spawn w).1.cells.startMarkers = [] := by
  rw [List.eq_nil_iff_forall_not_mem]
  rintro ⟨p, facing⟩ hmarker
  rw [Grid.mem_startMarkers, get?_spawn h] at hmarker
  obtain ⟨kind, -, hkind⟩ := Option.map_eq_some_iff.1 hmarker
  cases kind <;> simp [CellKind.isStart] at hkind

/-- A level loses no start marker.  Each of them gets one actor, who stands there and looks
its way; the actors are numbered from zero in the order in which the grid is read, no two
on one cell, and take the colours of the roster in that order.  The markers turn into floor,
and nothing else changes: whoever spawns again gets nobody. -/
theorem spawn_serves_markers (level : Level) :
    let w := World.ofLevel level
    let cleared := (spawn w).1
    let actors := (spawn w).2
    (∀ p facing, level.cells.get? p = some (.start facing) ↔
      ∃ a ∈ actors, a.pos = p ∧ a.facing = facing) ∧
    actors.length = level.cells.starts ∧
    (actors.map Actor.pos).Pairwise Grid.Before ∧
    (actors.map Actor.pos).Nodup ∧
    actors.map Actor.id = List.range level.cells.starts ∧
    actors.map Actor.color = roster.take level.cells.starts ∧
    cleared.hazards = w.hazards ∧
    cleared.cells.width = w.cells.width ∧ cleared.cells.height = w.cells.height ∧
    (∀ p, cleared.cells.get? p =
      (w.cells.get? p).map fun kind => if kind.isStart then .empty else kind) ∧
    spawn cleared = (cleared, []) := by
  intro w cleared actors
  have hroster : w.cells.starts ≤ roster.length := level.starts_le
  have hmarkers : actors.map (fun a => (a.pos, a.facing)) = w.cells.startMarkers :=
    map_spawn hroster
  have hlength : actors.length = level.cells.starts := by
    rw [← List.length_map (f := fun a : Actor => (a.pos, a.facing)), hmarkers]
    exact Grid.length_startMarkers level.cells
  have horder : (actors.map Actor.pos).Pairwise Grid.Before := by
    rw [map_pos_spawn hroster]
    exact w.cells.pairwise_startMarkers
  have hids : actors.map Actor.id = List.range level.cells.starts := by
    rw [map_id_spawn, hlength]
  refine ⟨fun p facing => ?_, hlength, horder, horder.imp Grid.Before.ne, hids,
    map_color_spawn hroster, rfl, width_spawn w, height_spawn w, get?_spawn hroster,
    spawn_of_unmarked (startMarkers_spawn hroster)⟩
  have hmem : (p, facing) ∈ w.cells.startMarkers ↔
      ∃ a ∈ actors, a.pos = p ∧ a.facing = facing := by
    rw [← hmarkers, List.mem_map]
    simp only [Prod.mk.injEq]
  rw [← hmem, Grid.mem_startMarkers]
  rfl

end Beamwalk
