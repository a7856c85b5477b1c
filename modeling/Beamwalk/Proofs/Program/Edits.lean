/-
Module: Beamwalk.Proofs.Program.Edits
Purpose: Editing a program is editing the list of its commands.
Main exports: Program.Edit, Program.Edit.ofList, Program.Edit.replay, Program.Fresh,
  Program.replay_edit, Program.edit_histories_agree
-/
import Beamwalk.Format.Program
import Beamwalk.Proofs.Program.Editing
import Beamwalk.Proofs.Program.Pairing

namespace Beamwalk.Program

/-- An edit of a sequence of commands. -/
inductive Edit where
  /-- Put a command in front of the one at the index, or at the end. -/
  | insert (index : Nat) (command : Command)
  | push (command : Command)
  | remove (index : Nat)
  | clear
deriving Repr, Inhabited, DecidableEq

namespace Edit

/-- An edit of a plain list: the list afterwards, and the command that was taken out
of it. -/
def ofList (commands : List Command) : Edit → List Command × Option Command
  | .insert index command => (commands.insertIdx (min index commands.length) command, none)
  | .push command => (commands ++ [command], none)
  | .remove index => (commands.eraseIdx index, commands[index]?)
  | .clear => ([], none)

/-- Edits one after the other: what they lead to, and what each of them has taken
out. -/
def replay {α : Type} (apply : α → Edit → α × Option Command) :
    α → List Edit → α × List (Option Command)
  | x, [] => (x, [])
  | x, edit :: rest =>
      let (y, removed) := apply x edit
      let (z, removals) := replay apply y rest
      (z, removed :: removals)

end Edit

/-- An edit of a program: the program afterwards, and the command that was taken out
of it. -/
def edit (p : Program) : Edit → Program × Option Command
  | .insert index command => (p.insert index command, none)
  | .push command => (p.push command, none)
  | .remove index => p.remove index
  | .clear => (p.clear, none)

/-- A program before its first edit: an empty one, one of a command sequence, or one
that has been read from JSON. -/
inductive Fresh : Program → Prop where
  | empty : Fresh .empty
  | ofCommands (commands : List Command) : Fresh (.ofCommands commands)
  | read {source : Json.Source} {node : Node} {p : Program}
      (h : Format.program source node = .ok p) : Fresh p

variable {p q : Program}

theorem Fresh.made (fresh : p.Fresh) : p.Made := by
  cases fresh with
  | empty => exact .built []
  | ofCommands commands => exact .built commands
  | @read source node _ h =>
      unfold Format.program Json.Reader.map at h
      cases hlist : Json.Reader.list Format.command source node with
      | error e =>
          rw [hlist] at h
          cases h
      | ok commands =>
          rw [hlist] at h
          cases h
          exact .built commands

theorem Made.edited (made : p.Made) (e : Edit) : (p.edit e).1.Made := by
  cases e with
  | insert index command => exact made.inserted index command
  | push command => exact made.pushed command
  | remove index => exact made.removed index
  | clear => exact made.cleared

theorem Made.replayed (made : p.Made) (edits : List Edit) :
    (Edit.replay edit p edits).1.Made := by
  induction edits generalizing p with
  | nil => exact made
  | cons e rest ih => exact ih (made.edited e)

/-- One edit does to the commands of a program what it does to a list. -/
theorem ofList_commands (p : Program) (e : Edit) :
    Edit.ofList p.commands e = ((p.edit e).1.commands, (p.edit e).2) := by
  cases e <;> simp [Edit.ofList, Program.edit]

theorem replay_ofList (p : Program) (edits : List Edit) :
    Edit.replay Edit.ofList p.commands edits =
      ((Edit.replay edit p edits).1.commands, (Edit.replay edit p edits).2) := by
  induction edits generalizing p with
  | nil => rfl
  | cons e rest ih =>
      rw [Edit.replay, ofList_commands]
      simp only [ih]
      rfl

/-- Whatever edits a program has gone through, its commands are those of a plain list
that went through the same edits, each edit takes out of the program what it takes out
of the list, and the program is the one that its commands make up when they are read
afresh: a step is as deep as there are openers that wait in front of it, and programs
whose histories lead to the same commands are equal. -/
theorem edit_histories_agree (fresh : p.Fresh) (edits : List Edit) :
    let edited := Edit.replay edit p edits
    (edited.1.commands, edited.2) = Edit.replay Edit.ofList p.commands edits ∧
    edited.1 = ofCommands edited.1.commands ∧
    (∀ index step, edited.1.get? index = some step →
      step.depth = (Nesting.waiting edited.1.commands index).length) ∧
    ∀ q : Program, q.Fresh → ∀ edits' : List Edit,
      (Edit.replay edit q edits').1.commands = edited.1.commands →
        (Edit.replay edit q edits').1 = edited.1 := by
  intro edited
  have made : edited.1.Made := fresh.made.replayed edits
  refine ⟨(replay_ofList p edits).symm, made.eq_ofCommands, fun _ _ => made.depth_eq, ?_⟩
  intro q hq edits' hcommands
  rw [(hq.made.replayed edits').eq_ofCommands, hcommands, ← made.eq_ofCommands]

/-- Edits that reach behind the end and leave a stray closer in front of a loop. -/
def scribbles : List Edit :=
  [.insert 9 (.loopStart .zero), .push .advance, .remove 7, .remove 1, .insert 2 .uTurn]

theorem edit_histories_agree_scribbles :
    let edited := Edit.replay edit (.ofCommands [.loopEnd, .jump]) scribbles
    edited = (.ofCommands [.loopEnd, .loopStart .zero, .uTurn, .advance],
      [none, none, none, some .jump, none]) ∧
    edited.1.get? 3 = some ⟨.advance, 1⟩ ∧
    (Edit.replay edit .empty
      [.push .uTurn, .insert 0 (.loopStart .zero), .push .advance, .insert 0 .loopEnd]).1 =
        edited.1 := by
  intro edited
  obtain ⟨hlist, hcommands, _, hother⟩ :=
    edit_histories_agree (.ofCommands [.loopEnd, .jump]) scribbles
  obtain ⟨hleft, hremoved⟩ : edited.1.commands = [.loopEnd, .loopStart .zero, .uTurn, .advance] ∧
      edited.2 = [none, none, none, some .jump, none] :=
    Prod.mk.inj (hlist.trans (by decide))
  have hprogram : edited.1 = .ofCommands [.loopEnd, .loopStart .zero, .uTurn, .advance] :=
    hcommands.trans (congrArg ofCommands hleft)
  refine ⟨Prod.ext hprogram hremoved, ?_, hother .empty .empty _ ?_⟩
  · rw [hprogram]
    rfl
  · rw [hprogram, commands_ofCommands]
    decide

end Beamwalk.Program
