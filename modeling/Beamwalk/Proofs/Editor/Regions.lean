/-
Module: Beamwalk.Proofs.Editor.Regions
Purpose: Which parts of the editor stay in their regions of the terminal.
Main exports: Region.encloses_mapIdx, Editor.encloses_drawPanel, Editor.encloses_drawStatus_iff,
  Editor.encloses_drawPreview_iff, EditorState.screen_regions
-/
import Beamwalk.Proofs.Editor.MenuBar
import Beamwalk.Proofs.Level.Spawn
import Beamwalk.Proofs.Picture.Layers

namespace Beamwalk

/-!
The lines of the panel are cut to its width, and the board is cut to its region.  The
status line is cut to the width of the terminal and then put behind a blank, and the
caption of the board is not cut at all.
-/

namespace Region

/-- Lines that are numbered stay in a region if each of them does. -/
theorem encloses_mapIdx {α : Type} {r : Region} {rows : List α} {line : Nat → α → List DrawOp}
    (h : ∀ (y : Nat) (hy : y < rows.length), r.Encloses (line y rows[y])) :
    r.Encloses (rows.mapIdx line).flatten := by
  apply encloses_flatten
  intro ops hops
  obtain ⟨y, hy, rfl⟩ := List.mem_mapIdx.1 hops
  exact h y hy

end Region

namespace Editor

section

variable {r : Region} {x y : UInt16}

theorem length_fitted (width : Nat) (text : String) :
    (fitted width text).toList.length = width := by
  have hshown : (text.toList.take width).length ≤ width := List.length_take_le ..
  rw [fitted, String.toList_ofList, List.length_append, List.length_replicate]
  omega

/-- A dim text leaves one stroke, whatever was drawn before it. -/
theorem encloses_append_dimText_iff {ops : List DrawOp} {text : String} (h : r.Encloses ops) :
    r.Encloses (ops ++ .moveTo x y :: dimText text) ↔
      (r.top ≤ y.toNat ∧ y.toNat < r.top + r.height) ∧
        r.left ≤ x.toNat ∧ x.toNat + text.length ≤ r.left + r.width := by
  constructor
  · intro hall
    have hheld := hall (.plainAt ⟨0, 0⟩) ⟨⟨y.toNat, x.toNat⟩, text, _, true⟩ (by
      rw [Pen.strokes_append]
      exact List.mem_append_right _ List.mem_cons_self)
    exact hheld
  · intro hheld
    apply h.append
    intro pen stroke hstroke
    rw [List.mem_singleton.1 hstroke]
    exact hheld

theorem encloses_dimText_iff {text : String} :
    r.Encloses (.moveTo x y :: dimText text) ↔
      (r.top ≤ y.toNat ∧ y.toNat < r.top + r.height) ∧
        r.left ≤ x.toNat ∧ x.toNat + text.length ≤ r.left + r.width :=
  encloses_append_dimText_iff r.encloses_nil

theorem encloses_drawPanelRow (text : String) {width : Nat} (selected : Bool)
    (hrow : r.top ≤ y.toNat ∧ y.toNat < r.top + r.height) (hleft : r.left ≤ x.toNat)
    (hright : x.toNat + width ≤ r.left + r.width) :
    r.Encloses (drawPanelRow x y text width selected) := by
  rw [← length_fitted width text] at hright
  cases selected with
  | false => exact Region.encloses_line (by simp [DrawOp.stays]) hrow hleft (by simpa [DrawOp.text])
  | true => exact Region.encloses_line (by simp [DrawOp.stays]) hrow hleft (by simpa [DrawOp.text])

end

/-! ### The program panel -/

section

variable {l : Layout} {s : EditorState} {width height menu : Nat}

theorem encloses_drawPanelBody (h : l.Measures width height menu) (hwidth : 28 ≤ width)
    (hrows : 3 ≤ height - 1 - menu) :
    l.panelRegion.Encloses (drawPanelBody l s 25 (height - 1 - menu - 2)) := by
  have hlast := h.width_lt
  have hlowest := h.height_le
  have hx : (l.panelX + 2).toNat = width - 28 + 2 := toNat_add_ofNat 2 h.panelX (by omega)
  have htop : (l.menuHeight + 2).toNat = menu + 2 := toNat_add_ofNat 2 h.menuHeight (by omega)
  have hleft : l.panelRegion.left ≤ (l.panelX + 2).toNat := by
    rw [hx, Layout.panelRegion, h.panelX]
    exact Nat.le_add_right ..
  have hright : (l.panelX + 2).toNat + 25 ≤ l.panelRegion.left + l.panelRegion.width := by
    rw [h.panel_stop hwidth, hx]
    omega
  rw [drawPanelBody]
  split
  · next question selected hmode =>
      have hlines : (l.menuHeight + 2 + 1).toNat = menu + 2 + 1 :=
        toNat_add_ofNat 1 htop (by omega)
      apply Region.Encloses.append
      · have hcut : (question.text.toList.take 25).length ≤ 25 := List.length_take_le ..
        refine encloses_dimText_iff.2 ⟨h.panel_row htop (by omega), hleft, ?_⟩
        rw [String.length_ofList]
        exact Nat.le_trans (Nat.add_le_add_left hcut _) hright
      · apply Region.encloses_mapIdx
        intro i hi
        rw [List.length_take] at hi
        exact encloses_drawPanelRow _ _
          (h.panel_row (toNat_add_ofNat i hlines (by omega)) (by omega)) hleft hright
  · exact encloses_drawPanelRow _ _ (h.panel_row htop (by omega)) hleft hright
  · split
    · have hempty : "(empty)".length ≤ 25 := by decide
      exact encloses_dimText_iff.2 ⟨h.panel_row htop (by omega), hleft,
        Nat.le_trans (Nat.add_le_add_left hempty _) hright⟩
    · apply Region.encloses_mapIdx
      intro row hrow
      rw [List.length_take] at hrow
      exact encloses_drawPanelRow _ _
        (h.panel_row (toNat_add_ofNat row htop (by omega)) (by omega)) hleft hright

theorem length_panelTitle (mode : Mode) : (panelTitle mode).length ≤ 7 := by
  cases mode with
  | confirm _ _ => exact (by decide : "Confirm".length ≤ 7)
  | repeatCount _ => exact (by decide : "Repeat".length ≤ 7)
  | normal => exact (by decide : "Program".length ≤ 7)

/-- The line between the board and the panel. -/
theorem encloses_edge (h : l.Measures width height menu) (hwidth : 28 ≤ width) :
    l.panelRegion.Encloses ((List.range l.panelHeight.toNat).flatMap fun y =>
      [.moveTo l.panelX (l.menuHeight + UInt16.ofNat y), .print "│"]) := by
  have hlowest := h.height_le
  apply Region.encloses_flatten
  intro ops hops
  obtain ⟨y, hy, rfl⟩ := List.mem_map.1 hops
  rw [List.mem_range, h.panelHeight] at hy
  have hrow := toNat_add_ofNat y h.menuHeight (by omega)
  apply Region.encloses_line _ (h.panel_row hrow (by omega)) (Nat.le_refl _)
  · rw [h.panel_stop hwidth, h.panelX]
    show width - 28 + 1 ≤ width
    omega
  · simp [DrawOp.stays]

theorem encloses_heading (h : l.Measures width height menu) (hwidth : 28 ≤ width)
    (hrows : 3 ≤ height - 1 - menu) (mode : Mode) :
    l.panelRegion.Encloses
      [.moveTo (l.panelX + 2) l.menuHeight, .bold, .print (panelTitle mode), .plain] := by
  have hlast := h.width_lt
  have hx : (l.panelX + 2).toNat = width - 28 + 2 := toNat_add_ofNat 2 h.panelX (by omega)
  have htitle := length_panelTitle mode
  have htyped : DrawOp.typed [.bold, .print (panelTitle mode), .plain] =
      (panelTitle mode).toList := by simp [DrawOp.text]
  apply Region.encloses_line _ (h.panel_row h.menuHeight (by omega))
  · rw [hx, Layout.panelRegion, h.panelX]
    exact Nat.le_add_right ..
  · rw [h.panel_stop hwidth, hx, htyped, String.length_toList]
    omega
  · simp [DrawOp.stays]

theorem length_typed_replicate (n : Nat) :
    (DrawOp.typed (List.replicate n (.print "─"))).length = n := by
  induction n with
  | zero => rfl
  | succ n ih => exact congrArg (· + 1) ih

/-- The rule below the heading. -/
theorem encloses_rule (h : l.Measures width height menu) (hwidth : 28 ≤ width)
    (hrows : 3 ≤ height - 1 - menu) :
    l.panelRegion.Encloses (.moveTo l.panelX (l.menuHeight + 1) :: .print "┼" ::
      List.replicate (l.panelWidth.toNat - 1) (.print "─")) := by
  have hlowest := h.height_le
  have hrow : (l.menuHeight + 1).toNat = menu + 1 := toNat_add_ofNat 1 h.menuHeight (by omega)
  apply Region.encloses_line _ (h.panel_row hrow (by omega)) (Nat.le_refl _)
  · rw [DrawOp.typed_cons, List.length_append, length_typed_replicate, h.panel_stop hwidth,
      h.panelX, h.panelWidth]
    show width - 28 + (1 + 27) ≤ width
    omega
  · intro op hop
    rcases List.mem_cons.1 hop with rfl | hop
    · rfl
    · rw [List.eq_of_mem_replicate hop]
      rfl

theorem encloses_drawPanel (h : l.Measures width height menu) (hwidth : 28 ≤ width) :
    l.panelRegion.Encloses (drawPanel l s) := by
  unfold drawPanel
  dsimp only
  split
  · exact Region.encloses_nil _
  · next hroom =>
      have hrows : 3 ≤ l.panelHeight.toNat := by
        rw [not_or, UInt16.lt_iff_toNat_lt, UInt16.lt_iff_toNat_lt] at hroom
        exact Nat.le_of_not_lt hroom.2
      have hinner : (l.panelWidth - 3).toNat = 25 := by
        have hthree : (3 : UInt16) ≤ l.panelWidth := by
          rw [UInt16.le_iff_toNat_le, h.panelWidth]
          decide
        rw [UInt16.toNat_sub_of_le _ _ hthree, h.panelWidth]
        rfl
      have hlines : (l.panelHeight - 2).toNat = height - 1 - menu - 2 := by
        have htwo : (2 : UInt16) ≤ l.panelHeight := by
          rw [UInt16.le_iff_toNat_le]
          exact Nat.le_of_succ_le hrows
        rw [UInt16.toNat_sub_of_le _ _ htwo, h.panelHeight]
        rfl
      rw [h.panelHeight] at hrows
      rw [hinner, hlines, List.append_assoc, List.append_assoc]
      exact (encloses_edge h hwidth).append ((encloses_heading h hwidth hrows s.mode).append
        ((encloses_rule h hwidth hrows).append (encloses_drawPanelBody h hwidth hrows)))

/-! ### The status line -/

/-- The words of the status line come behind a blank, so they must be shorter than the
terminal is wide. -/
theorem encloses_drawStatus_iff (h : l.Measures width height menu) :
    l.statusRegion.Encloses (drawStatus l s) ↔ (statusText s).length < width := by
  have hwords : (String.ofList ((statusText s).toList.take width)).length =
      min width (statusText s).length := by
    rw [String.length_ofList, List.length_take, String.length_toList]
  have hcut : (" " ++ String.ofList ((statusText s).toList.take width)).length =
      1 + min width (statusText s).length := by
    rw [String.length_append, hwords]
    rfl
  have hone : l.statusRegion.Encloses (drawStatus l s) ↔ l.statusRegion.Encloses
      (.moveTo 0 l.statusY ::
        dimText (" " ++ String.ofList ((statusText s).toList.take width))) := by
    rw [drawStatus, h.termWidth]
    rfl
  rw [hone, encloses_dimText_iff, hcut]
  simp only [Layout.statusRegion, h.termWidth, UInt16.toNat_zero]
  omega

/-! ### The board -/

theorem typed_glyphs (glyphs : List Glyph) :
    (DrawOp.typed (glyphs.map DrawOp.glyph)).length = glyphs.length := by
  induction glyphs with
  | nil => rfl
  | cons g rest ih =>
      have hglyph : (DrawOp.glyph g).text.toList = [g.char] := String.toList_singleton g.char
      rw [List.map_cons, DrawOp.typed_cons, hglyph, List.singleton_append, List.length_cons, ih,
        List.length_cons]

/-- A board that is cut to its region stays in it. -/
theorem encloses_board (h : l.Measures width height menu) (rows : List (List Glyph)) :
    l.boardRegion.Encloses ((rows.take l.boardHeight.toNat).mapIdx fun y row =>
      .moveTo l.boardX (l.boardY + UInt16.ofNat y) ::
        (row.take l.boardWidth.toNat).map DrawOp.glyph).flatten := by
  apply Region.encloses_mapIdx
  intro y hy
  have hlowest := h.height_le
  have hrow : y < l.boardHeight.toNat := by
    rw [List.length_take] at hy
    exact Nat.lt_of_lt_of_le hy (Nat.min_le_left ..)
  have hy : (l.boardY + UInt16.ofNat y).toNat = l.boardY.toNat + y := by
    rw [h.boardHeight] at hrow
    exact toNat_add_ofNat y rfl (by rw [h.boardY]; omega)
  apply Region.encloses_line
  · intro op hop
    obtain ⟨g, -, rfl⟩ := List.mem_map.1 hop
    rfl
  · rw [hy]
    exact ⟨Nat.le_add_right .., Nat.add_lt_add_left hrow _⟩
  · exact Nat.le_refl _
  · rw [typed_glyphs]
    exact Nat.add_le_add_left (List.length_take_le ..) _

/-- The caption is left out if its row is below the region, but it is not cut.  Its row is
counted modulo `2 ^ 16`. -/
theorem encloses_drawPreview_iff (h : l.Measures width height menu) {row : Nat}
    (hcaption : (menu + 1 + s.level.cells.height + 1) % 2 ^ 16 = row) :
    l.boardRegion.Encloses (drawPreview l s) ↔
      (row < menu + 1 + (height - (menu + 2)) →
        menu + 1 ≤ row ∧ (caption s.level).length ≤ width - 29) := by
  have hrows : (Board.ofState (RunState.ofLevel s.level)).picture.rows.length =
      s.level.cells.height := Run.length_rows_replay s.level [] []
  have hrow : (l.boardY + UInt16.ofNat s.level.cells.height + 1).toNat = row := by
    rw [UInt16.toNat_add, UInt16.toNat_add, UInt16.toNat_ofNat', h.boardY, ← hcaption]
    simp
  have hend : (l.boardY + l.boardHeight).toNat = menu + 1 + (height - (menu + 2)) := by
    have hboardY := l.boardY.toNat_lt
    have hlowest := h.height_le
    rw [h.boardY] at hboardY
    rw [UInt16.toNat_add, h.boardY, h.boardHeight]
    exact Nat.mod_eq_of_lt (by omega)
  unfold drawPreview
  dsimp only
  rw [hrows]
  split
  · next hshown =>
      rw [UInt16.lt_iff_toNat_lt, hrow, hend] at hshown
      rw [encloses_append_dimText_iff (encloses_board h _), hrow]
      simp only [Layout.boardRegion, h.boardX, h.boardY, h.boardWidth, h.boardHeight]
      constructor
      · rintro ⟨⟨htop, -⟩, -, hstop⟩ -
        exact ⟨htop, Nat.le_of_add_le_add_left hstop⟩
      · intro hfits
        obtain ⟨htop, hstop⟩ := hfits hshown
        exact ⟨⟨htop, hshown⟩, Nat.le_refl _, Nat.add_le_add_left hstop _⟩
  · next hhidden =>
      rw [UInt16.lt_iff_toNat_lt, hrow, hend] at hhidden
      rw [List.append_nil]
      exact ⟨fun _ hshown => absurd hshown hhidden, fun _ => encloses_board h _⟩

end

end Editor

/-! ### The whole screen -/

namespace EditorState

open Editor

/-- The panel stays in its region on every terminal that is wider than the panel.  The menu
stays in the menu bar unless it passes the last column that sixteen bits can count, and
items that can be counted in one row never do.  The status line stays in the terminal
exactly if its words are shorter than the terminal is wide, as it starts with a blank.  The
board with its caption stays in its region, which ends where the panel starts, exactly if
the caption is left out, or has a row there, counted modulo `2 ^ 16`, and is short enough. -/
theorem screen_regions (s : EditorState) (size : TerminalSize) (hwidth : 28 < size.width.toNat) :
    let l := Layout.ofSize size s.mode
    let row := (l.boardY.toNat + s.level.cells.height + 1) % 2 ^ 16
    l.panelRegion.Encloses (drawPanel l s) ∧
    (l.menuRegion.Encloses (drawMenu l s) ↔
      ∀ pen : Pen, ∀ stroke ∈ pen.strokes (drawMenu l s), stroke.stop < 2 ^ 16) ∧
    (1 + breadth (menuItems s.config.keys s.mode) < 2 ^ 16 →
      l.menuRegion.Encloses (drawMenu l s)) ∧
    (l.statusRegion.Encloses (drawStatus l s) ↔ (statusText s).length < size.width.toNat) ∧
    (l.boardRegion.Encloses (drawPreview l s) ↔
      (row < l.boardY.toNat + l.boardHeight.toNat →
        l.boardY.toNat ≤ row ∧ (caption s.level).length ≤ l.boardWidth.toNat)) ∧
    l.boardRegion.left + l.boardRegion.width = l.panelRegion.left ∧
    l.panelRegion.left + l.panelRegion.width = size.width.toNat := by
  intro l row
  have hroom : 28 ≤ size.width.toNat := Nat.le_of_lt hwidth
  have h := Layout.measures_ofSize hroom s.mode
  have hmenu : 0 < l.menuHeight := by
    rw [UInt16.lt_iff_toNat_lt, h.menuHeight]
    rcases Layout.menuRows_cases s.mode with hrows | hrows <;> rw [hrows] <;> decide
  have hcolumn : 1 ≤ l.termWidth.toNat := Nat.le_trans (by decide) hroom
  refine ⟨encloses_drawPanel h hroom, encloses_drawMenu_iff hcolumn hmenu,
    encloses_drawMenu hcolumn hmenu, encloses_drawStatus_iff h, ?_, h.board_stop hwidth,
    h.panel_stop hroom⟩
  have hrow : ((Layout.menuRows s.mode).toNat + 1 + s.level.cells.height + 1) % 2 ^ 16 = row := by
    rw [← h.boardY]
  rw [encloses_drawPreview_iff h hrow, h.boardY, h.boardHeight, h.boardWidth]

/-- On a terminal of the usual size all parts of the screen stay in their regions. -/
theorem screen_regions_alcove :
    let s := ofProgram .alcove .empty "p" {}
    let l := Layout.ofSize ⟨80, 24⟩ s.mode
    28 < (TerminalSize.mk 80 24).width.toNat ∧
    l.panelRegion.Encloses (drawPanel l s) ∧ l.menuRegion.Encloses (drawMenu l s) ∧
    l.statusRegion.Encloses (drawStatus l s) ∧ l.boardRegion.Encloses (drawPreview l s) := by
  intro s l
  obtain ⟨hpanel, -, hmenu, hstatus, hboard, -⟩ := screen_regions s ⟨80, 24⟩ (by decide)
  exact ⟨by decide, hpanel, hmenu (by decide +kernel), hstatus.2 (by decide +kernel),
    hboard.2 fun _ => by decide +kernel⟩

/-- On a narrow terminal the status line ends one column too late, and the caption runs into
the panel. -/
theorem narrow_screen_overflows :
    let s := ofProgram .alcove .empty "p" {}
    let l := Layout.ofSize ⟨40, 10⟩ s.mode
    ¬ l.statusRegion.Encloses (drawStatus l s) ∧ ¬ l.boardRegion.Encloses (drawPreview l s) := by
  intro s l
  have hwidth : 28 ≤ (TerminalSize.mk 40 10).width.toNat := by decide
  have h := Layout.measures_ofSize hwidth s.mode
  rw [encloses_drawStatus_iff h, encloses_drawPreview_iff h rfl]
  decide +kernel

end EditorState

end Beamwalk
