/-
Module: Beamwalk.Program.Basic
Purpose: Programs as command sequences with the nesting depth of every step.
Main exports: Program, Program.ofCommands, Program.insert, Program.remove,
  Program.budgetRemaining, Program.overBudget
-/
import Beamwalk.Program.Command

namespace Beamwalk

/-- A command with the number of loops open before it. -/
structure Step where
  command : Command
  depth : Nat
deriving Repr, Inhabited, DecidableEq

namespace Step

/-- The steps of a command sequence that starts inside `depth` loops.  A closer
belongs to the loop it closes; one that closes nothing leaves the depth at
zero. -/
def nest (depth : Nat) : List Command → List Step
  | [] => []
  | .loopStart count :: rest => ⟨.loopStart count, depth⟩ :: nest (depth + 1) rest
  | .loopEnd :: rest => ⟨.loopEnd, depth⟩ :: nest (depth - 1) rest
  | command :: rest => ⟨command, depth⟩ :: nest depth rest

@[simp] theorem map_command_nest (depth : Nat) (commands : List Command) :
    (nest depth commands).map Step.command = commands := by
  induction commands generalizing depth with
  | nil => rfl
  | cons command rest ih => cases command <;> simp [nest, ih]

end Step

/-- A program.  Loops need not be balanced: a defect matters only to a run that
reaches it. -/
structure Program where
  steps : List Step
deriving Repr, Inhabited, DecidableEq

namespace Program

/-- The program without commands. -/
def empty : Program := ⟨[]⟩

/-- The program of a command sequence. -/
def ofCommands (commands : List Command) : Program := ⟨Step.nest 0 commands⟩

/-- The commands in order. -/
def commands (p : Program) : List Command := p.steps.map Step.command

/-- The number of commands. -/
def size (p : Program) : Nat := p.steps.length

/-- There is no command. -/
def isEmpty (p : Program) : Bool := p.steps.isEmpty

/-- The step at an index. -/
def get? (p : Program) (index : Nat) : Option Step := p.steps[index]?

/-- Settle the depth of every step. -/
def renest (p : Program) : Program := ofCommands p.commands

/-- Put a command in front of the step at `index`, or at the end when there is
no such step. -/
def insert (p : Program) (index : Nat) (command : Command) : Program :=
  renest ⟨p.steps.insertIdx (min index p.steps.length) ⟨command, 0⟩⟩

/-- Put a command at the end. -/
def push (p : Program) (command : Command) : Program := p.insert p.size command

/-- Take out the step at `index`: the program without it and its command.
Nothing happens past the end. -/
def remove (p : Program) (index : Nat) : Program × Option Command :=
  match p.steps[index]? with
  | none => (p, none)
  | some step => (renest ⟨p.steps.eraseIdx index⟩, some step.command)

/-- Take out everything. -/
def clear (_ : Program) : Program := empty

/-- How many commands count in a class. -/
def count (p : Program) (c : CommandClass) : Nat :=
  p.commands.countP fun command => command.class? == some c

/-- What is left of a cap. -/
def budgetRemaining (p : Program) (budgets : Budgets) (c : CommandClass) : Budget :=
  (c.budget budgets).remaining (p.count c)

/-- The classes that exceed their cap. -/
def overBudget (p : Program) (budgets : Budgets) : List CommandClass :=
  CommandClass.all.filter fun c => !(c.budget budgets).allows (p.count c)

@[simp] theorem commands_ofCommands (commands : List Command) :
    (ofCommands commands).commands = commands := by
  simp [ofCommands, Program.commands]

@[simp] theorem commands_renest (p : Program) : p.renest.commands = p.commands := by
  simp [renest]

end Program

end Beamwalk
