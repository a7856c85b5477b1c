/-
Module: Beamwalk.Format.Program
Purpose: Commands and programs as JSON.
Main exports: Format.command, Format.program and their writers
-/
import Beamwalk.Format.Level
import Beamwalk.Program.Basic

namespace Beamwalk.Format

open Json (Reader)
open Json.Reader

/-- Read a command. -/
def command : Reader Command :=
  oneOf [
    ("advance", .unit .advance),
    ("turn_right", .unit .turnRight),
    ("turn_left", .unit .turnLeft),
    ("u_turn", .unit .uTurn),
    ("jump", .unit .jump),
    ("loop_start", .value (map Command.loopStart count)),
    ("loop_end", .unit .loopEnd),
    ("if_then", .unit .ifThen),
    ("if_else", .unit .ifElse),
    ("if_end", .unit .ifEnd)]

/-- A command. -/
def writeCommand : Command → Json
  | .advance => .string "advance"
  | .turnRight => .string "turn_right"
  | .turnLeft => .string "turn_left"
  | .uTurn => .string "u_turn"
  | .jump => .string "jump"
  | .loopStart count => .object [("loop_start", writeCount count)]
  | .loopEnd => .string "loop_end"
  | .ifThen => .string "if_then"
  | .ifElse => .string "if_else"
  | .ifEnd => .string "if_end"

/-- Read a program: the list of its commands. -/
def program : Reader Program := map Program.ofCommands (list command)

/-- A program. -/
def writeProgram (p : Program) : Json := .array (p.commands.map writeCommand)

end Beamwalk.Format
