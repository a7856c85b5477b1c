/-
Module: Beamwalk.Editor.Layout
Purpose: How the editor divides the terminal.
Main exports: Layout, Layout.ofSize, Layout.panelHeight
-/
import Beamwalk.Editor.State
import Beamwalk.Screen.Op

namespace Beamwalk

/-!
From top to bottom: the menu bar, the board with the program panel to its
right, the status line.  A region that does not fit shrinks to nothing.
-/

/-- The regions of the editor. -/
structure Layout where
  boardX : UInt16
  boardY : UInt16
  boardWidth : UInt16
  boardHeight : UInt16
  panelX : UInt16
  panelWidth : UInt16
  statusY : UInt16
  termWidth : UInt16
  menuHeight : UInt16
deriving Repr, Inhabited, DecidableEq

namespace Layout

/-- The columns of the program panel, where the terminal has as many. -/
def fullPanelWidth : UInt16 := 28

/-- The rows of the menu bar.  The hints for typing a count need two. -/
def menuRows : Mode → UInt16
  | .repeatCount _ => 2
  | _ => 1

/-- The regions for a terminal. -/
def ofSize (size : TerminalSize) (mode : Mode) : Layout :=
  let menuHeight := menuRows mode
  let panelWidth := min fullPanelWidth size.width
  let boardWidth := saturatingSub size.width panelWidth
  { boardX := 1
    boardY := menuHeight + 1
    boardWidth := saturatingSub boardWidth 1
    boardHeight := saturatingSub size.height (menuHeight + 1 + 1)
    panelX := boardWidth
    panelWidth := panelWidth
    statusY := saturatingSub size.height 1
    termWidth := size.width
    menuHeight := menuHeight }

/-- The rows of the program panel. -/
def panelHeight (layout : Layout) : UInt16 := saturatingSub layout.statusY layout.menuHeight

end Layout

end Beamwalk
