/-
Module: Beamwalk.Player.Basic
Purpose: Playing a program as an animation.
Main exports: Player, Player.misfit?, Playback, Player.begin, Playback.handleKey
-/
import Beamwalk.Config
import Beamwalk.Keyboard.Binding
import Beamwalk.Keyboard.Queue
import Beamwalk.Run.Basic
import Beamwalk.Screen.MenuItem

namespace Beamwalk

/-- A program to be shown on a level. -/
structure Player where
  level : Level
  program : Program
  config : Config
deriving Repr, DecidableEq

namespace Player

/-!
The menu bar takes the first row of the screen, the board the rows below it,
then come one row for the latest event and one for the status.  Rows and
columns are numbered by sixteen bits.
-/

/-- The rows above the board. -/
def boardTop : UInt16 := 1

/-- The columns of the board. -/
def neededWidth (p : Player) : UInt16 := UInt16.ofNat p.level.cells.width

/-- The rows of the board and of the three lines around it. -/
def neededHeight (p : Player) : UInt16 := UInt16.ofNat p.level.cells.height + 3

/-- What to say when the terminal is too small. -/
def misfit? (p : Player) (size : TerminalSize) : Option String :=
  if size.width < p.neededWidth ∨ size.height < p.neededHeight then
    some (s!"Terminal too small: need {p.neededWidth.toNat}x{p.neededHeight.toNat}, "
      ++ s!"have {size.width.toNat}x{size.height.toNat}")
  else none

/-- The row of the latest event. -/
def eventRow (p : Player) : UInt16 := UInt16.ofNat p.level.cells.height + boardTop

/-- The row of the status. -/
def statusRow (p : Player) : UInt16 := p.eventRow + 1

/-- The items of the menu. -/
def menuItems (keys : KeyBindings) : List String :=
  ["[" ++ keys.stop ++ "] stop", "[" ++ keys.replay ++ "] replay", "[" ++ keys.quit ++ "] quit",
    "[F11] full"]

/-- Draw the menu bar with the name of the level. -/
def drawMenu (p : Player) : List DrawOp :=
  [.moveTo 0 0, .clearLine, .print " "]
    ++ (p.level.name.map fun name => DrawOp.print (name ++ "  ")).toList
    ++ (((menuItems p.config.keys).map drawMenuItem).intersperse [.print "  "]).flatten

/-- Draw a board. -/
def drawBoard (b : Board) : List DrawOp :=
  (b.picture.rows.mapIdx fun y row =>
    .moveTo 0 (UInt16.ofNat y + boardTop) :: row.map DrawOp.glyph).flatten

/-- Draw the status, if there is a row for it. -/
def drawStatus (p : Player) (size : TerminalSize) (status : String) : List DrawOp :=
  if size.height ≤ p.statusRow then []
  else [.moveTo 0 p.statusRow, .clearLine, .styled { bold := true } (" " ++ status)]

/-- Draw an event. -/
def drawEvent (p : Player) (event : RunEvent) : List DrawOp :=
  [.moveTo 0 p.eventRow, .clearLine, .styled { dim := true } (" " ++ event.text)]

/-- Draw the events of a run one after the other, each with the board that it
leads to; the last board comes with the drawing. -/
def drawEvents (p : Player) : Board → List RunEvent → List DrawOp × Board
  | board, [] => ([], board)
  | board, event :: events =>
      let next := board.apply event
      let (ops, last) := drawEvents p next events
      (drawBoard next ++ p.drawEvent event ++ ops, last)

/-- The words for the result of a run. -/
def resultText : Except ProgramError Outcome → String
  | .ok .success => "Solved!  [r] replay  [q] quit"
  | .ok outcome => outcome.text ++ "  [r] replay  [q] quit"
  | .error e => "Program error: " ++ e.message ++ "  [q] quit"

/-- The words while a program runs. -/
def runningText : String := "Running...  [Esc] stop"

/-- A key that stops a running animation. -/
def isStopKey (keys : KeyBindings) (key : Key) : Bool :=
  matchesBinding keys.stop key || matchesBinding keys.quit key

end Player

/-- A program that has been shown, with the run it was shown on. -/
structure Playback where
  player : Player
  run : Run
  fullscreen : Bool
deriving Repr, DecidableEq

namespace Playback

/-- Whether there is a pause after each event, in which keys are read. -/
def pauses (p : Playback) : Bool := p.player.config.player.stepDelay ≠ 0

/-- Run the program from the current state of the run and draw it.  The pause
after the first event reads all keys that wait, and one that stops the
animation stops the run. -/
def animate (p : Playback) (size : TerminalSize) (keys : KeyQueue) :
    Playback × List DrawOp × KeyQueue :=
  let stop := p.pauses && keys.waiting.any (Player.isStopKey p.player.config.keys)
  let report := p.run.execute p.player.program fun _ => stop
  let board := Board.ofState p.run.state
  let keys := if p.pauses && !report.events.isEmpty then keys.drained else keys
  ({ p with run := report.run },
    Player.drawBoard board
      ++ p.player.drawStatus size Player.runningText
      ++ (p.player.drawEvents board report.events).1
      ++ p.player.drawStatus size (Player.resultText report.result),
    keys.resultShown)

/-- What a key does when a program has been shown: `none` leaves the player. -/
def handleKey (p : Playback) (size : TerminalSize) (keys : KeyQueue) (key : Key) :
    Option (Playback × List DrawOp × KeyQueue) :=
  let bindings := p.player.config.keys
  if matchesBinding bindings.quit key || matchesBinding bindings.cancel key then none
  else if matchesBinding bindings.replay key then
    some (animate { p with run := p.run.restore } size keys)
  else if key.code = .function 11 then
    some ({ p with fullscreen := !p.fullscreen }, [.fullscreen !p.fullscreen], keys)
  else some (p, [], keys)

end Playback

/-- Show the program for the first time. -/
def Player.begin (p : Player) (size : TerminalSize) (keys : KeyQueue) :
    Playback × List DrawOp × KeyQueue :=
  let (playback, ops, keys) := Playback.animate ⟨p, Run.ofLevel p.level, false⟩ size keys
  (playback, p.drawMenu ++ ops, keys)

end Beamwalk
