/-
Module: Beamwalk.Proofs.Picture.Layers
Purpose: What the cells of a picture show, told position by position.
Main exports: Board.groundAt, Board.glyphAt, Board.get?_picture, Board.rows_picture,
  Board.picture_onGrid, Run.length_rows_replay, Run.picture_layers
-/
import Beamwalk.Picture
import Beamwalk.Proofs.Grid.Painting
import Beamwalk.Proofs.Grid.Rows
import Beamwalk.Proofs.Run.Soundness

namespace Beamwalk

/-!
A picture is painted layer by layer, each layer over the whole grid.  Read the other way,
a cell shows the topmost layer that has something to put there: a strike, else an actor in
front of the ground, else the ground alone.
-/

namespace Board

/-- The sides on which beams touch a position, none off the grid. -/
def beamsAt (b : Board) (p : Pos) : Beams := (b.world.hazards.field.get? p).getD .none

/-- The line along which beams cross a cell. -/
def lineAt (b : Board) (p : Pos) : Char :=
  if (b.beamsAt p).has .east || (b.beamsAt p).has .west then
    if (b.beamsAt p).has .north || (b.beamsAt p).has .south then '┼' else '─'
  else '│'

/-- The ground at a position whose cell holds `kind`: its fixture, on dark red if a beam
crosses it.  Only empty floor shows the beam itself. -/
def groundAt (b : Board) (p : Pos) (kind : CellKind) : Glyph :=
  let fixture := Glyph.ofCell kind
  if b.world.isLive p then
    { char := if kind = .empty then b.lineAt p else fixture.char
      style := { fixture.style with background := some (.rgb 70 0 0) } }
  else fixture

/-- The actor who is seen at a position: of those who stand there the last one. -/
def actorAt? (b : Board) (p : Pos) : Option Actor := (b.actors.filter (·.pos = p)).getLast?

/-- What a picture shows at a position whose cell holds `kind`. -/
def glyphAt (b : Board) (p : Pos) (kind : CellKind) : Glyph :=
  let ground := b.groundAt p kind
  if p ∈ b.struck then
    ⟨'✖', { foreground := some .white, background := some .red, bold := true, dim := false }⟩
  else
    match b.actorAt? p with
    | some a =>
        { char := a.facing.arrow
          style :=
            { foreground := some a.color.color
              background := ground.style.background
              bold := true
              dim := ground.style.dim } }
    | none => ground

variable {b : Board} {p q : Pos} {picture : Picture} {kind : CellKind}

/-! ### The layers -/

theorem get?_paintFixtures (b : Board) (p : Pos) :
    b.paintFixtures.get? p = (b.world.cell? p).map Glyph.ofCell := by
  rw [World.cell?, Grid.get?_eq_getElem?, Grid.get?_eq_getElem?]
  have hcontains : b.paintFixtures.contains p = b.world.cells.contains p := rfl
  rw [hcontains]
  split
  · exact Array.getElem?_map
  · rfl

/-- What the beams of one cell do to its glyph. -/
def shine (b : Board) (entry : Pos × Beams) (g : Glyph) : Glyph :=
  match b.world.cell? entry.1 with
  | some kind => g.lit kind entry.2
  | none => g

theorem paintBeams_eq (b : Board) (picture : Picture) :
    b.paintBeams picture = b.world.hazards.field.scan.foldl
      (fun picture entry => picture.modify entry.1 (b.shine entry)) picture := by
  unfold paintBeams
  congr
  funext picture entry
  unfold shine
  cases b.world.cell? entry.1 with
  | none => exact (picture.modify_id entry.1).symm
  | some kind => rfl

theorem get?_paintBeams (b : Board) (picture : Picture) (p : Pos) :
    (b.paintBeams picture).get? p =
      (picture.get? p).map fun g =>
        ((b.world.hazards.field.get? p).map fun beams => b.shine (p, beams) g).getD g := by
  rw [paintBeams_eq, Grid.get?_foldl_modify, Grid.filter_scan]
  cases b.world.hazards.field.get? p <;> rfl

/-- The beams of the model draw the line that the sides tell. -/
theorem line_eq_lineAt {beams : Beams} (h : b.world.hazards.field.get? p = some beams) :
    beams.line = b.lineAt p := by
  rw [lineAt, beamsAt, h, Option.getD_some, Beams.line]
  cases beams.has .east || beams.has .west <;> cases beams.has .north || beams.has .south <;> rfl

/-- The two lower layers make the ground. -/
theorem get?_ground (b : Board) (p : Pos) :
    (b.paintBeams b.paintFixtures).get? p = (b.world.cell? p).map (b.groundAt p) := by
  rw [get?_paintBeams, get?_paintFixtures]
  cases hcell : b.world.cell? p with
  | none => rfl
  | some kind =>
      rw [Option.map_some, Option.map_some, Option.map_some, Option.some_inj, groundAt,
        World.isLive, HazardState.isLive]
      cases hfield : b.world.hazards.field.get? p with
      | none => rfl
      | some beams =>
          rw [Option.map_some, Option.getD_some, shine, hcell]
          dsimp only
          rw [Glyph.lit, line_eq_lineAt hfield]
          rfl

/-- An actor hides whoever stands behind. -/
theorem foldl_behind (actors : List Actor) (g : Glyph) :
    actors.foldl (fun g a => g.behind a) g =
      match actors.getLast? with
      | some a => g.behind a
      | none => g := by
  induction actors using List.reverseRecOn with
  | nil => rfl
  | append_singleton front a ih =>
      rw [List.foldl_append, ih, List.getLast?_concat]
      cases front.getLast? <;> rfl

theorem get?_paintActors (b : Board) (picture : Picture) (p : Pos) :
    (b.paintActors picture).get? p = (picture.get? p).map fun g =>
      match b.actorAt? p with
      | some a => g.behind a
      | none => g := by
  rw [paintActors, Grid.get?_foldl_modify]
  simp only [foldl_behind]
  rfl

theorem get?_paintStrikes (b : Board) (picture : Picture) (p : Pos) :
    (b.paintStrikes picture).get? p =
      (picture.get? p).map fun g => if p ∈ b.struck then Glyph.strike else g := by
  rw [paintStrikes, Grid.get?_foldl_set]
  cases hget : picture.get? p with
  | none => simp [Grid.get?_eq_none_iff.1 hget]
  | some g =>
      simp only [Grid.contains_of_get? hget, and_true, Option.map_some]
      split <;> rfl

/-- All layers together. -/
theorem get?_picture (b : Board) (p : Pos) :
    b.picture.get? p = (b.world.cell? p).map (b.glyphAt p) := by
  rw [picture, get?_paintStrikes, get?_paintActors, get?_ground, Option.map_map, Option.map_map]
  congr

/-! ### The shape of the picture -/

@[simp] theorem width_picture (b : Board) : b.picture.width = b.world.cells.width := by
  simp only [picture, paintStrikes, paintActors, paintBeams_eq, Grid.width_foldl_set,
    Grid.width_foldl_modify]
  rfl

@[simp] theorem height_picture (b : Board) : b.picture.height = b.world.cells.height := by
  simp only [picture, paintStrikes, paintActors, paintBeams_eq, Grid.height_foldl_set,
    Grid.height_foldl_modify]
  rfl

/-- The rows of a picture are those of the board, cell by cell. -/
theorem rows_picture (b : Board) (hwidth : b.world.cells.width ≠ 0) :
    b.picture.rows.map List.length =
      List.replicate b.world.cells.height b.world.cells.width ∧
    ∀ p, b.picture.rows[p.row]?.bind (·[p.col]?) = (b.world.cell? p).map (b.glyphAt p) := by
  have hpicture : b.picture.width ≠ 0 := by rwa [width_picture]
  constructor
  · rw [List.eq_replicate_iff]
    constructor
    · rw [List.length_map, Grid.length_rows hpicture, height_picture]
    · intro n hn
      obtain ⟨row, hrow, rfl⟩ := List.mem_map.1 hn
      rw [Grid.length_of_mem_rows hrow, width_picture]
  · intro p
    rw [Grid.getElem?_rows hpicture, get?_picture]

/-- The board without whatever is off the grid. -/
def onGrid (b : Board) : Board :=
  { b with
    actors := b.actors.filter fun a => b.world.cells.contains a.pos
    struck := b.struck.filter b.world.cells.contains }

/-- Nobody who stands on a cell is off the grid. -/
theorem actorAt?_onGrid (h : b.world.cell? p = some kind) : b.onGrid.actorAt? p = b.actorAt? p := by
  have hcontains := Grid.contains_of_get? h
  rw [actorAt?, actorAt?, onGrid, List.filter_filter]
  congr 2
  funext a
  by_cases ha : a.pos = p
  · rw [ha, hcontains, Bool.and_true]
  · rw [decide_eq_false ha, Bool.false_and]

theorem glyphAt_onGrid (h : b.world.cell? p = some kind) : b.onGrid.glyphAt p = b.glyphAt p := by
  have hstruck : p ∈ b.onGrid.struck ↔ p ∈ b.struck := by
    rw [onGrid, List.mem_filter]
    exact and_iff_left (Grid.contains_of_get? h)
  have hground : b.onGrid.groundAt p = b.groundAt p := rfl
  funext content
  simp only [glyphAt, hstruck, hground, actorAt?_onGrid h]

theorem picture_onGrid (b : Board) : b.onGrid.picture = b.picture := by
  apply Grid.ext_get?
  · rw [width_picture, width_picture]
    rfl
  · rw [height_picture, height_picture]
    rfl
  · intro p
    rw [get?_picture, get?_picture]
    have hcell : b.onGrid.world.cell? p = b.world.cell? p := rfl
    rw [hcell]
    cases h : b.world.cell? p with
    | none => rfl
    | some kind => rw [glyphAt_onGrid h]

/-! ### Boards that follow runs -/

/-- No event changes the size of a board. -/
theorem size_apply (b : Board) (event : RunEvent) :
    (b.apply event).world.cells.width = b.world.cells.width ∧
      (b.apply event).world.cells.height = b.world.cells.height := by
  cases event with
  | coinCollected _ pos => exact ⟨World.width_enter _ pos, World.height_enter _ pos⟩
  | _ => exact ⟨rfl, rfl⟩

theorem size_replay (b : Board) (events : List RunEvent) :
    (b.replay events).world.cells.width = b.world.cells.width ∧
      (b.replay events).world.cells.height = b.world.cells.height := by
  induction events generalizing b with
  | nil => exact ⟨rfl, rfl⟩
  | cons event rest ih =>
      obtain ⟨hwidth, hheight⟩ := b.size_apply event
      obtain ⟨hwidth', hheight'⟩ := ih (b.apply event)
      exact ⟨hwidth'.trans hwidth, hheight'.trans hheight⟩

end Board

namespace Run

/-- A board that follows a run has as many rows as the level. -/
theorem length_rows_replay (level : Level) (history : List Operation)
    (events : List RunEvent) :
    ((Board.ofState (after level history).state).replay events).picture.rows.length =
      level.cells.height := by
  have hsound : (after level history).state.Sound level :=
    ((sound_ofLevel level).operateAll history).state
  obtain ⟨hwidth, hheight⟩ := (Board.ofState (after level history).state).size_replay events
  have hwidth := hwidth.trans hsound.world.width
  rw [Grid.length_rows, Board.height_picture, hheight]
  · exact hsound.world.height
  · rw [Board.width_picture, hwidth]
    exact level.width_ne_zero

/-- The picture of a board that has taken in any events on any state of a run: it has a
glyph for each cell of the level, in rows of one length, and each glyph is the topmost layer
there.  Whoever is off the grid is not in the picture, and neither are strikes. -/
theorem picture_layers (level : Level) (history : List Operation) (events : List RunEvent) :
    let b := (Board.ofState (after level history).state).replay events
    b.picture.rows.map List.length = List.replicate level.cells.height level.cells.width ∧
    (∀ p, b.picture.rows[p.row]?.bind (·[p.col]?) = (b.world.cell? p).map (b.glyphAt p)) ∧
    b.picture = Board.picture
      { b with
        actors := b.actors.filter fun a => b.world.cells.contains a.pos
        struck := b.struck.filter b.world.cells.contains } := by
  intro b
  have hsound : (after level history).state.Sound level :=
    ((sound_ofLevel level).operateAll history).state
  obtain ⟨hwidth, hheight⟩ := (Board.ofState (after level history).state).size_replay events
  have hwidth : b.world.cells.width = level.cells.width := hwidth.trans hsound.world.width
  have hheight : b.world.cells.height = level.cells.height := hheight.trans hsound.world.height
  have hrows := b.rows_picture (hwidth ▸ level.width_ne_zero)
  rw [hwidth, hheight] at hrows
  exact ⟨hrows.1, hrows.2, b.picture_onGrid.symm⟩

end Run

/-- A source that lights the floor beside it, and an actor in the row below. -/
def Level.alcove : Level where
  name := none
  cells := .ofRows [[.horizontalSource .red, .empty, .empty],
    [.start .east, .coin, .button (.single .blue)]] (by decide)
  enabled := ⟨true, false, false⟩
  budgets := {}
  width_ne_zero := by decide
  height_ne_zero := by decide
  starts_ne_zero := by decide
  starts_le := by decide

/-- Who walks into the beam stands on its ground; the floor there is as dim as before. -/
example :
    let b := Board.ofState (RunState.ofLevel .alcove)
    b.picture.rows.map (·.map Glyph.char) = [['◆', '─', '─'], ['▶', '•', '▣']] ∧
      (b.apply (.actorAdvanced 0 ⟨1, 0⟩ ⟨0, 1⟩)).picture.get? ⟨0, 1⟩ =
        some ⟨'▶', ⟨some (.rgb 255 150 0), some (.rgb 70 0 0), true, true⟩⟩ := by
  decide +kernel

end Beamwalk
