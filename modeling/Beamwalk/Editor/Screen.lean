/-
Module: Beamwalk.Editor.Screen
Purpose: What the editor draws.
Main exports: Editor.menuItems, Editor.drawMenu, Editor.drawPreview, Editor.drawPanel,
  Editor.drawStatus, EditorState.draw
-/
import Beamwalk.Editor.Layout
import Beamwalk.Editor.Listing
import Beamwalk.Screen.MenuItem

namespace Beamwalk

namespace Editor

/-! ### The menu bar -/

/-- A key of the menu. -/
def bracketed (binding : String) : String := "[" ++ binding ++ "]"

/-- The items of the menu. -/
def menuItems (keys : KeyBindings) : Mode → List String
  | .normal => [
      bracketed keys.insertAdvance ++ " advance",
      bracketed keys.insertTurnLeft ++ bracketed keys.insertTurnRight ++ " turn",
      bracketed keys.insertUTurn ++ " u-turn",
      bracketed keys.insertJump ++ " jump",
      bracketed keys.insertLoop ++ bracketed keys.insertLoopEnd ++ " loop",
      bracketed keys.delete ++ " del",
      bracketed keys.clear ++ " clear",
      bracketed keys.run ++ " run",
      bracketed keys.save ++ " save",
      bracketed keys.quit ++ " quit",
      "[F11] full"]
  | .repeatCount _ => [
      "[0-9] count",
      "[Backspace] fix",
      bracketed keys.confirm ++ " add loop",
      bracketed keys.cancel ++ " cancel"]
  | .confirm _ _ => [
      "[↑][↓] select",
      "[Enter] confirm",
      bracketed keys.cancel ++ " cancel"]

/-- Start a row of the menu: one blank. -/
def menuRow (row : UInt16) : List DrawOp := [.moveTo 0 row, .clearLine, .print " "]

/-- Draw an item if it fits behind column `x`, then the items after it.  The
answer names the last row in use. -/
def drawMenuItems (layout : Layout) : (row x : UInt16) → (first : Bool) → List String →
    List DrawOp × UInt16
  | row, _, _, [] => ([], row)
  | row, x, first, item :: items =>
      let width := UInt16.ofNat item.length
      if first then
        if layout.termWidth < x + width then ([], row)
        else
          let (ops, last) := drawMenuItems layout row (x + width) false items
          (drawMenuItem item ++ ops, last)
      else if layout.termWidth < x + 2 + width then
        -- The item goes to the next row, if there is one and if it fits there.
        if row + 1 < layout.menuHeight then
          if layout.termWidth < 1 + width then (menuRow (row + 1), row + 1)
          else
            let (ops, last) := drawMenuItems layout (row + 1) (1 + width) false items
            (menuRow (row + 1) ++ drawMenuItem item ++ ops, last)
        else ([], row)
      else
        let (ops, last) := drawMenuItems layout row (x + 2 + width) false items
        (.print "  " :: drawMenuItem item ++ ops, last)

/-- The screen rows from one to below another. -/
def rowsBetween (start stop : UInt16) : List UInt16 :=
  (List.range (stop.toNat - start.toNat)).map fun k => start + UInt16.ofNat k

/-- Draw the menu bar and clear the rows that it leaves over. -/
def drawMenu (layout : Layout) (s : EditorState) : List DrawOp :=
  let (ops, last) := drawMenuItems layout 0 1 true (menuItems s.config.keys s.mode)
  menuRow 0 ++ ops
    ++ (rowsBetween (last + 1) layout.menuHeight).flatMap fun row => [.moveTo 0 row, .clearLine]

/-! ### The board -/

/-- A dim text. -/
def dimText (text : String) : List DrawOp := [.dim, .print text, .plain]

/-- The words below the board. -/
def caption (level : Level) : String :=
  level.name.getD "untitled level" ++ s!"  ·  {level.coinCount} dots"

/-- Draw the board as a run will first find it, as much of it as fits. -/
def drawPreview (layout : Layout) (s : EditorState) : List DrawOp :=
  let rows := (Board.ofState (RunState.ofLevel s.level)).picture.rows
  let board := (rows.take layout.boardHeight.toNat).mapIdx fun y row =>
    DrawOp.moveTo layout.boardX (layout.boardY + UInt16.ofNat y)
      :: (row.take layout.boardWidth.toNat).map DrawOp.glyph
  let captionY := layout.boardY + UInt16.ofNat rows.length + 1
  board.flatten ++
    if captionY < layout.boardY + layout.boardHeight then
      .moveTo layout.boardX captionY :: dimText (caption s.level)
    else []

/-! ### The program panel -/

/-- The first line to show so that the cursor stays in sight. -/
def scrollOffset (cursor visible : Nat) : Nat := if visible = 0 then 0 else cursor - (visible - 1)

/-- Cut a text to a width and fill it up with blanks. -/
def fitted (width : Nat) (text : String) : String :=
  let shown := text.toList.take width
  String.ofList (shown ++ List.replicate (width - shown.length) ' ')

/-- Draw a line of the panel; the selected one stands out. -/
def drawPanelRow (x y : UInt16) (text : String) (width : Nat) (selected : Bool) :
    List DrawOp :=
  .moveTo x y ::
    if selected then [.reverse, .print (fitted width text), .plain]
    else [.print (fitted width text)]

/-- The heading of the panel. -/
def panelTitle : Mode → String
  | .confirm _ _ => "Confirm"
  | .repeatCount _ => "Repeat"
  | .normal => "Program"

/-- The lines of the panel below its heading. -/
def drawPanelBody (layout : Layout) (s : EditorState) (width rows : Nat) : List DrawOp :=
  let x := layout.panelX + 2
  let top := layout.menuHeight + 2
  match s.mode with
  | .confirm question selected =>
      .moveTo x top :: dimText (String.ofList (question.text.toList.take width))
        ++ ((["Yes", "No"].take (rows - 1)).mapIdx fun i answer =>
            drawPanelRow x (top + 1 + UInt16.ofNat i) answer width
              (UInt64.ofNat i = selected)).flatten
  | .repeatCount digits =>
      drawPanelRow x top ("Repeat " ++ String.ofList digits ++ "█ times") width false
  | .normal =>
      if s.program.isEmpty then .moveTo x top :: dimText "(empty)"
      else
        let first := scrollOffset s.cursor rows
        (((s.program.lines.drop first).take rows).mapIdx fun row line =>
          drawPanelRow x (top + UInt16.ofNat row) line width (first + row = s.cursor)).flatten

/-- Draw the program panel, if there is room for it. -/
def drawPanel (layout : Layout) (s : EditorState) : List DrawOp :=
  let height := layout.panelHeight
  if layout.panelWidth < 4 ∨ height < 3 then []
  else
    let x := layout.panelX
    let top := layout.menuHeight
    ((List.range height.toNat).flatMap fun y => [.moveTo x (top + UInt16.ofNat y), .print "│"])
      ++ [.moveTo (x + 2) top, .bold, .print (panelTitle s.mode), .plain, .moveTo x (top + 1),
        .print "┼"]
      ++ List.replicate (layout.panelWidth.toNat - 1) (.print "─")
      ++ drawPanelBody layout s (layout.panelWidth - 3).toNat (height - 2).toNat

/-! ### The status line -/

/-- The words of the status line. -/
def statusText (s : EditorState) : String :=
  match s.status with
  | some message => message
  | none => s.path ++ (if s.dirty then " [modified]" else "") ++ "  ·  " ++ s.budgetSummary

/-- Draw the status line. -/
def drawStatus (layout : Layout) (s : EditorState) : List DrawOp :=
  [.moveTo 0 layout.statusY, .clearLine]
    ++ dimText (" " ++ String.ofList ((statusText s).toList.take layout.termWidth.toNat))

end Editor

/-- Draw the whole screen. -/
def EditorState.draw (s : EditorState) (size : TerminalSize) : List DrawOp :=
  let layout := Layout.ofSize size s.mode
  .clearAll :: Editor.drawMenu layout s ++ Editor.drawPreview layout s
    ++ Editor.drawPanel layout s ++ Editor.drawStatus layout s

end Beamwalk
