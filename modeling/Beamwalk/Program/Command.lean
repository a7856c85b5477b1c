/-
Module: Beamwalk.Program.Command
Purpose: The commands a program is made of and the budget classes they count in.
Main exports: Command, Command.label, CommandClass, Command.class?
-/
import Beamwalk.Level.Budget

namespace Beamwalk

/-- One command of a program. -/
inductive Command where
  | advance
  | turnRight
  | turnLeft
  | uTurn
  | jump
  /-- Opens a loop whose body runs `count` times. -/
  | loopStart (count : Count)
  | loopEnd
  /-- The three markers of a conditional are reserved: a program may carry
  them, and running them does nothing. -/
  | ifThen
  | ifElse
  | ifEnd
deriving Repr, Inhabited, DecidableEq

/-- The classes of command that a level can put a cap on. -/
inductive CommandClass where
  | jump
  | loop
  | turn
deriving Repr, Inhabited, DecidableEq

namespace CommandClass

/-- The classes in the order in which they are listed. -/
def all : List CommandClass := [.jump, .loop, .turn]

/-- The name shown to people. -/
def label : CommandClass → String
  | .jump => "jumps"
  | .loop => "loops"
  | .turn => "turns"

/-- The cap of a level on the class. -/
def budget (budgets : Budgets) : CommandClass → Budget
  | .jump => budgets.jumps
  | .loop => budgets.loops
  | .turn => budgets.turns

theorem mem_all (c : CommandClass) : c ∈ all := by cases c <;> decide

end CommandClass

namespace Command

/-- The class a command counts in.  Advancing, closing a loop and the reserved
markers are free. -/
def class? : Command → Option CommandClass
  | .jump => some .jump
  | .loopStart _ => some .loop
  | .turnLeft | .turnRight | .uTurn => some .turn
  | _ => none

/-- The words shown in a listing. -/
def label : Command → String
  | .advance => "Advance"
  | .turnRight => "Turn right"
  | .turnLeft => "Turn left"
  | .uTurn => "U-turn"
  | .jump => "Jump"
  | .loopStart count => s!"Repeat {count.val}x"
  | .loopEnd => "End repeat"
  | .ifThen => "If"
  | .ifElse => "Else"
  | .ifEnd => "End if"

end Command

end Beamwalk
