/-
Module: Beamwalk.Proofs.Player.Fit
Purpose: Which levels the player takes for a terminal, and the rows it shows them in.
Main exports: DrawOp.rowsEntered, Player.misfit?_eq_none_iff, Player.toNat_statusRow,
  Player.rowsEntered_drawBoard, Player.shows_what_fits, Level.endless
-/
import Mathlib.Algebra.Ring.Nat
import Beamwalk.Player.Basic
import Beamwalk.Proofs.Picture.Layers

namespace Beamwalk

/-!
The screen is counted in sixteen bits and a level is not.  The player takes the size of a
level modulo `2 ^ 16`: for a level whose rows and columns can be counted in sixteen bits,
with three rows to spare, that is its size, and the level is shown in rows of its own; a
larger level can be taken for a small one.
-/

namespace DrawOp

/-- The row to which an instruction moves. -/
def row? : DrawOp → Option Nat
  | .moveTo _ row => some row.toNat
  | .print _ | .styled _ _ | .clearAll | .clearLine | .bold | .dim | .reverse | .plain
  | .enterScreen | .leaveScreen | .hideCursor | .showCursor | .fullscreen _ => none

/-- The rows to which instructions move, in order. -/
def rowsEntered (ops : List DrawOp) : List Nat := ops.filterMap row?

@[simp] theorem rowsEntered_append (ops ops' : List DrawOp) :
    rowsEntered (ops ++ ops') = rowsEntered ops ++ rowsEntered ops' := List.filterMap_append

/-- Glyphs are written where the line before them starts. -/
theorem rowsEntered_line (column row : UInt16) (glyphs : List Glyph) :
    rowsEntered (.moveTo column row :: glyphs.map glyph) = [row.toNat] := by
  have hglyphs : (glyphs.map glyph).filterMap row? = [] := by
    rw [List.filterMap_map, List.filterMap_eq_nil_iff]
    exact fun _ _ => rfl
  exact congrArg (row.toNat :: ·) hglyphs

end DrawOp

namespace Player

variable {p : Player} {size : TerminalSize}

/-! ### The check -/

theorem toNat_neededWidth (p : Player) :
    p.neededWidth.toNat = p.level.cells.width % 2 ^ 16 := UInt16.toNat_ofNat'

theorem toNat_neededHeight (p : Player) :
    p.neededHeight.toNat = (p.level.cells.height + 3) % 2 ^ 16 := by
  rw [neededHeight, UInt16.toNat_add, UInt16.toNat_ofNat']
  simp

/-- The check compares the terminal with the size of the level modulo `2 ^ 16`. -/
theorem misfit?_eq_none_iff (p : Player) (size : TerminalSize) :
    p.misfit? size = none ↔
      p.level.cells.width % 2 ^ 16 ≤ size.width.toNat ∧
        (p.level.cells.height + 3) % 2 ^ 16 ≤ size.height.toNat := by
  rw [← toNat_neededWidth, ← toNat_neededHeight, misfit?]
  simp [UInt16.lt_iff_toNat_lt]

/-! ### The rows -/

theorem toNat_boardRow {y : Nat} (h : y + 1 < 2 ^ 16) :
    (UInt16.ofNat y + boardTop).toNat = y + 1 := by
  have hy : (UInt16.ofNat y).toNat = y := UInt16.toNat_ofNat_of_lt' (Nat.lt_of_succ_lt h)
  rw [UInt16.toNat_add, hy]
  exact Nat.mod_eq_of_lt h

theorem toNat_eventRow (h : p.level.cells.height + 3 < 2 ^ 16) :
    p.eventRow.toNat = p.level.cells.height + 1 := toNat_boardRow (by omega)

theorem toNat_statusRow (h : p.level.cells.height + 3 < 2 ^ 16) :
    p.statusRow.toNat = p.level.cells.height + 2 := by
  rw [statusRow, UInt16.toNat_add, toNat_eventRow h]
  exact Nat.mod_eq_of_lt (Nat.lt_of_succ_lt h)

/-- Lines that are drawn one below the other. -/
theorem rowsEntered_lines (start : Nat) (rows : List (List Glyph))
    (h : start + rows.length < 2 ^ 16) :
    DrawOp.rowsEntered (rows.mapIdx fun y row =>
      .moveTo 0 (UInt16.ofNat (start + y) + boardTop) :: row.map DrawOp.glyph).flatten =
      List.range' (start + 1) rows.length := by
  induction rows generalizing start with
  | nil => rfl
  | cons row rest ih =>
      rw [List.length_cons] at h
      have hrest := ih (start + 1) (by omega)
      simp only [Nat.add_right_comm start 1] at hrest
      rw [List.mapIdx_cons, List.flatten_cons, DrawOp.rowsEntered_append,
        DrawOp.rowsEntered_line, toNat_boardRow (by omega), List.length_cons, List.range'_succ]
      exact congrArg _ hrest

theorem rowsEntered_drawBoard {b : Board} (h : b.picture.rows.length < 2 ^ 16) :
    DrawOp.rowsEntered (drawBoard b) = List.range' 1 b.picture.rows.length := by
  have hlines := rowsEntered_lines 0 b.picture.rows (by omega)
  simpa only [Nat.zero_add, drawBoard] using hlines

theorem rowsEntered_drawEvent (p : Player) (event : RunEvent) :
    DrawOp.rowsEntered (p.drawEvent event) = [p.eventRow.toNat] := rfl

theorem rowsEntered_drawStatus (h : p.statusRow.toNat < size.height.toNat) (status : String) :
    DrawOp.rowsEntered (p.drawStatus size status) = [p.statusRow.toNat] := by
  rw [drawStatus, if_neg]
  · rfl
  · rw [UInt16.le_iff_toNat_le]
    omega

/-! ### Both together -/

/-- The player takes a level exactly if its sizes, counted modulo `2 ^ 16`, fit the
terminal.  For a level whose sizes can be counted in sixteen bits this is to say that it
fits: the board is as wide as the terminal at most, and there are three rows to spare.  The
board then takes the rows below the menu bar, the events come in the row below it and the
status in the next one, all of them inside the terminal. -/
theorem shows_what_fits (level : Level) (program : Program) (config : Config)
    (size : TerminalSize) :
    let p : Player := ⟨level, program, config⟩
    let width := level.cells.width
    let height := level.cells.height
    (p.misfit? size = none ↔
      width % 2 ^ 16 ≤ size.width.toNat ∧ (height + 3) % 2 ^ 16 ≤ size.height.toNat) ∧
    (width < 2 ^ 16 → height + 3 < 2 ^ 16 →
      (p.misfit? size = none ↔ width ≤ size.width.toNat ∧ height + 3 ≤ size.height.toNat)) ∧
    (p.misfit? size = none → height + 3 < 2 ^ 16 → ∀ history events event status,
      let b := (Board.ofState (Run.after level history).state).replay events
      let rows := DrawOp.rowsEntered (drawBoard b ++ p.drawEvent event ++ p.drawStatus size status)
      rows = List.range' 1 height ++ [height + 1, height + 2] ∧
      rows.Nodup ∧ ∀ row ∈ rows, 0 < row ∧ row < size.height.toNat) := by
  intro p width height
  refine ⟨p.misfit?_eq_none_iff size, fun hwidth hheight => ?_, fun haccepted hheight => ?_⟩
  · rw [p.misfit?_eq_none_iff size, Nat.mod_eq_of_lt hwidth, Nat.mod_eq_of_lt hheight]
  · intro history events event status b rows
    obtain ⟨-, hfits⟩ := (p.misfit?_eq_none_iff size).1 haccepted
    rw [Nat.mod_eq_of_lt hheight] at hfits
    have hboard : b.picture.rows.length = height := Run.length_rows_replay level history events
    have hstatus : p.statusRow.toNat = height + 2 := toNat_statusRow hheight
    have hrows : rows = List.range' 1 height ++ [height + 1, height + 2] := by
      simp only [rows, DrawOp.rowsEntered_append]
      rw [rowsEntered_drawBoard (by omega), hboard, rowsEntered_drawEvent, toNat_eventRow hheight,
        rowsEntered_drawStatus (by omega), hstatus, List.append_assoc]
      rfl
    have hall : rows = List.range' 1 (height + 2) := by
      rw [hrows, ← List.range'_append_1, Nat.add_comm 1 height]
      rfl
    rw [hall]
    refine ⟨hall ▸ hrows, List.nodup_range', fun row hrow => ?_⟩
    rw [List.mem_range'_1] at hrow
    omega

/-- The two rows of an alcove come below the menu bar, then the event and the status. -/
theorem shows_what_fits_alcove :
    let p : Player := ⟨.alcove, .empty, {}⟩
    let b := Board.ofState (RunState.ofLevel .alcove)
    p.misfit? ⟨3, 5⟩ = none ∧
    DrawOp.rowsEntered (drawBoard b ++ p.drawEvent (.coinsUneaten 1) ++ p.drawStatus ⟨3, 5⟩ "") =
      [1, 2, 3, 4] ∧
    p.misfit? ⟨3, 4⟩ ≠ none ∧ p.misfit? ⟨2, 5⟩ ≠ none := by
  intro p b
  obtain ⟨-, hfits, hrows⟩ := shows_what_fits .alcove .empty {} ⟨3, 5⟩
  have haccepted : p.misfit? ⟨3, 5⟩ = none := (hfits (by decide) (by decide)).2 (by decide)
  obtain ⟨hlist, -, -⟩ := hrows haccepted (by decide) [] [] (.coinsUneaten 1) ""
  refine ⟨haccepted, hlist, fun h => ?_, fun h => ?_⟩
  · obtain ⟨-, hfits, -⟩ := shows_what_fits .alcove .empty {} ⟨3, 4⟩
    exact absurd ((hfits (by decide) (by decide)).1 h) (by decide)
  · obtain ⟨-, hfits, -⟩ := shows_what_fits .alcove .empty {} ⟨2, 5⟩
    exact absurd ((hfits (by decide) (by decide)).1 h) (by decide)

end Player

/-! ### A level that is too large to be counted -/

/-- A row of floor with one start marker in front. -/
def Grid.lane (width : Nat) : Grid CellKind :=
  (Grid.filled width 1 .empty).set ⟨0, 0⟩ (.start .east)

theorem Grid.width_lane (width : Nat) : (Grid.lane width).width = width := width_set ..

theorem Grid.starts_lane {width : Nat} (h : 0 < width) : (Grid.lane width).starts = 1 := by
  have hfloor : (Grid.filled width 1 CellKind.empty).get? ⟨0, 0⟩ = some .empty := by
    rw [get?_filled, if_pos]
    simpa [contains, filled] using h
  have hcount := Grid.count_set hfloor (.start .east) CellKind.isStart
  have hbare : (Grid.filled width 1 CellKind.empty).count CellKind.isStart = 0 := by
    simp [count, filled, Array.countP_replicate, CellKind.isStart]
  rw [hbare] at hcount
  exact hcount

/-- A level of one row that is `2 ^ 16` cells long. -/
def Level.endless : Level where
  name := none
  cells := .lane (2 ^ 16)
  enabled := .allOff
  budgets := {}
  width_ne_zero := by rw [Grid.width_lane]; decide
  height_ne_zero := by rw [Grid.lane, Grid.height_set]; decide
  starts_ne_zero := by rw [Grid.starts_lane (by decide)]; decide
  starts_le := by rw [Grid.starts_lane (by decide)]; decide

/-- The level is taken for an empty one, and accepted although it does not fit. -/
theorem Player.endless_accepted :
    Player.misfit? ⟨.endless, .empty, {}⟩ ⟨80, 24⟩ = none ∧
      ¬ Level.endless.cells.width ≤ (80 : UInt16).toNat := by
  have hwidth : Level.endless.cells.width = 2 ^ 16 := Grid.width_lane _
  have hheight : Level.endless.cells.height = 1 := Grid.height_set ..
  rw [misfit?_eq_none_iff, hwidth, hheight]
  decide

end Beamwalk
