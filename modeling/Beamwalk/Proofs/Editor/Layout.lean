/-
Module: Beamwalk.Proofs.Editor.Layout
Purpose: The regions into which the editor divides a terminal, counted without wrapping.
Main exports: Layout.menuRegion, Layout.boardRegion, Layout.panelRegion, Layout.statusRegion,
  Layout.Measures, Layout.measures_ofSize, Layout.Measures.panel_row, toNat_add_ofNat
-/
import Mathlib.Algebra.Ring.Nat
import Beamwalk.Editor.Layout
import Beamwalk.Proofs.Screen.Strokes

namespace Beamwalk

theorem toNat_saturatingSub (a b : UInt16) : (saturatingSub a b).toNat = a.toNat - b.toNat := by
  unfold saturatingSub
  split
  · next h => exact UInt16.toNat_sub_of_le _ _ h
  · next h =>
      rw [UInt16.le_iff_toNat_le] at h
      exact (Nat.sub_eq_zero_of_le (Nat.le_of_not_le h)).symm

theorem toNat_add_ofNat {a : UInt16} {m : Nat} (n : Nat) (ha : a.toNat = m)
    (h : m + n < 2 ^ 16) : (a + UInt16.ofNat n).toNat = m + n := by
  have hn : (UInt16.ofNat n).toNat = n :=
    UInt16.toNat_ofNat_of_lt' (Nat.lt_of_le_of_lt (Nat.le_add_left ..) h)
  rw [UInt16.toNat_add, hn, ha]
  exact Nat.mod_eq_of_lt h

namespace Layout

/-- The menu bar. -/
def menuRegion (l : Layout) : Region := ⟨0, 0, l.menuHeight.toNat, l.termWidth.toNat⟩

/-- The board and its caption. -/
def boardRegion (l : Layout) : Region :=
  ⟨l.boardY.toNat, l.boardX.toNat, l.boardHeight.toNat, l.boardWidth.toNat⟩

/-- The program panel. -/
def panelRegion (l : Layout) : Region :=
  ⟨l.menuHeight.toNat, l.panelX.toNat, l.panelHeight.toNat, l.panelWidth.toNat⟩

/-- The status line. -/
def statusRegion (l : Layout) : Region := ⟨l.statusY.toNat, 0, 1, l.termWidth.toNat⟩

/-- A layout of a terminal with so many columns and rows under a menu bar of so many rows. -/
structure Measures (l : Layout) (width height menu : Nat) : Prop where
  menuHeight : l.menuHeight.toNat = menu
  termWidth : l.termWidth.toNat = width
  boardX : l.boardX.toNat = 1
  boardY : l.boardY.toNat = menu + 1
  boardWidth : l.boardWidth.toNat = width - 29
  boardHeight : l.boardHeight.toNat = height - (menu + 2)
  panelX : l.panelX.toNat = width - 28
  panelWidth : l.panelWidth.toNat = 28
  panelHeight : l.panelHeight.toNat = height - 1 - menu
  statusY : l.statusY.toNat = height - 1

namespace Measures

variable {l : Layout} {width height menu : Nat}

theorem width_lt (h : l.Measures width height menu) : width < 2 ^ 16 :=
  h.termWidth ▸ l.termWidth.toNat_lt

theorem height_le (h : l.Measures width height menu) : height ≤ 2 ^ 16 := by
  have hlt := l.statusY.toNat_lt
  rw [h.statusY] at hlt
  omega

/-- A row of the panel. -/
theorem panel_row (h : l.Measures width height menu) {y : UInt16} {k : Nat}
    (hy : y.toNat = k) (hk : menu ≤ k ∧ k < height - 1) :
    l.panelRegion.top ≤ y.toNat ∧ y.toNat < l.panelRegion.top + l.panelRegion.height := by
  simp only [panelRegion, h.menuHeight, h.panelHeight, hy]
  omega

/-- The panel ends where the terminal ends. -/
theorem panel_stop (h : l.Measures width height menu) (hwidth : 28 ≤ width) :
    l.panelRegion.left + l.panelRegion.width = width := by
  simp only [panelRegion, h.panelX, h.panelWidth]
  omega

/-- The board ends where the panel starts. -/
theorem board_stop (h : l.Measures width height menu) (hwidth : 28 < width) :
    l.boardRegion.left + l.boardRegion.width = l.panelRegion.left := by
  simp only [boardRegion, panelRegion, h.boardX, h.boardWidth, h.panelX]
  omega

end Measures

theorem menuRows_cases (mode : Mode) :
    (menuRows mode).toNat = 1 ∨ (menuRows mode).toNat = 2 := by
  cases mode with
  | repeatCount _ => exact .inr rfl
  | normal => exact .inl rfl
  | confirm _ _ => exact .inl rfl

/-- What the regions of a terminal that has room for the panel come to. -/
theorem measures_ofSize {size : TerminalSize} (hwidth : 28 ≤ size.width.toNat) (mode : Mode) :
    (ofSize size mode).Measures size.width.toNat size.height.toNat (menuRows mode).toNat := by
  have hroom : fullPanelWidth ≤ size.width := UInt16.le_iff_toNat_le.2 hwidth
  have hpanel : min fullPanelWidth size.width = 28 := if_pos hroom
  have hmenu := menuRows_cases mode
  have hboardX : (saturatingSub size.width (min fullPanelWidth size.width)).toNat =
      size.width.toNat - 28 := by
    rw [toNat_saturatingSub, hpanel]
    rfl
  have hboardY : (menuRows mode + 1).toNat = (menuRows mode).toNat + 1 := by
    rcases hmenu with h | h <;> rw [UInt16.toNat_add, h] <;> rfl
  have hboardEnd : (menuRows mode + 1 + 1).toNat = (menuRows mode).toNat + 2 := by
    rcases hmenu with h | h <;> rw [UInt16.toNat_add, hboardY, h] <;> rfl
  have hstatus : (saturatingSub size.height 1).toNat = size.height.toNat - 1 :=
    toNat_saturatingSub ..
  exact {
    menuHeight := rfl
    termWidth := rfl
    boardX := rfl
    boardY := hboardY
    boardWidth := by
      show (saturatingSub _ 1).toNat = _
      rw [toNat_saturatingSub, hboardX, Nat.sub_sub]
      rfl
    boardHeight := by
      show (saturatingSub _ _).toNat = _
      rw [toNat_saturatingSub, hboardEnd]
    panelX := hboardX
    panelWidth := congrArg UInt16.toNat hpanel
    panelHeight := by
      rw [panelHeight, toNat_saturatingSub]
      exact congrArg (· - _) hstatus
    statusY := hstatus }

end Layout

end Beamwalk
