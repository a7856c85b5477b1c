/-
Module: Beamwalk.Screen.Op
Purpose: What is done to a terminal, and the escape sequences that do it.
Main exports: TerminalSize, DrawOp, DrawOp.escape, DrawOp.escapes, saturatingSub
-/
import Beamwalk.Picture

namespace Beamwalk

/-- The size of a terminal in columns and rows. -/
structure TerminalSize where
  width : UInt16
  height : UInt16
deriving Repr, Inhabited, DecidableEq

/-- One instruction to the terminal.  Columns and rows count from zero. -/
inductive DrawOp where
  | moveTo (column row : UInt16)
  | clearAll
  | clearLine
  | print (text : String)
  | bold
  | dim
  | reverse
  /-- Back to plain text. -/
  | plain
  /-- A text in a style of its own, followed by plain text. -/
  | styled (style : Style) (text : String)
  | enterScreen
  | leaveScreen
  | hideCursor
  | showCursor
  | fullscreen (on : Bool)
deriving Repr, Inhabited, DecidableEq

/-- The parameters of a colour. -/
def Color.parameters : Color → String
  | .red => "5;9"
  | .green => "5;10"
  | .yellow => "5;11"
  | .blue => "5;12"
  | .magenta => "5;13"
  | .cyan => "5;14"
  | .white => "5;15"
  | .rgb r g b => s!"2;{r.toNat};{g.toNat};{b.toNat}"

namespace DrawOp

/-- A control sequence. -/
def control (body : String) : String := "\x1b[" ++ body

/-- The sequences that switch a style on. -/
def styleOn (style : Style) : String :=
  (match style.background with
    | some c => control ("48;" ++ c.parameters ++ "m")
    | none => "")
  ++ (match style.foreground with
    | some c => control ("38;" ++ c.parameters ++ "m")
    | none => "")
  ++ (if style.bold then control "1m" else "")
  ++ (if style.dim then control "2m" else "")

/-- The characters that are sent for an instruction.  The terminal counts
columns and rows from one. -/
def escape : DrawOp → String
  | .moveTo column row => control s!"{row.toNat + 1};{column.toNat + 1}H"
  | .clearAll => control "2J"
  | .clearLine => control "2K"
  | .print text => text
  | .bold => control "1m"
  | .dim => control "2m"
  | .reverse => control "7m"
  | .plain => control "0m"
  | .styled style text => styleOn style ++ text ++ control "0m"
  | .enterScreen => control "?1049h"
  | .leaveScreen => control "?1049l"
  | .hideCursor => control "?25l"
  | .showCursor => control "?25h"
  | .fullscreen true => control "10;1t"
  | .fullscreen false => control "10;0t"

/-- The characters that are sent for several instructions. -/
def escapes (ops : List DrawOp) : String := String.join (ops.map escape)

/-- A glyph. -/
def glyph (g : Glyph) : DrawOp := .styled g.style g.char.toString

end DrawOp

/-- The difference of two screen coordinates, never below zero. -/
def saturatingSub (a b : UInt16) : UInt16 := if b ≤ a then a - b else 0

end Beamwalk
