/-
Module: Beamwalk.Proofs.Program.Editing
Purpose: Programs as building and editing make them.
Main exports: Program.commands_insert, Program.commands_remove, Program.commands_insert_between,
  Program.commands_remove_between, Program.Made, Program.Made.eq_ofCommands
-/
import Mathlib.Data.List.InsertIdx
import Beamwalk.Program.Basic

namespace Beamwalk.Program

/-! ### The commands after an edit -/

@[simp] theorem length_commands (p : Program) : p.commands.length = p.size :=
  List.length_map _

@[simp] theorem commands_insert (p : Program) (index : Nat) (command : Command) :
    (p.insert index command).commands = p.commands.insertIdx (min index p.size) command := by
  rw [insert, commands_renest, commands, List.map_insertIdx]
  rfl

@[simp] theorem commands_push (p : Program) (command : Command) :
    (p.push command).commands = p.commands ++ [command] := by
  rw [push, commands_insert, Nat.min_self, ← length_commands, List.insertIdx_length_self]

@[simp] theorem commands_remove (p : Program) (index : Nat) :
    (p.remove index).1.commands = p.commands.eraseIdx index := by
  unfold remove
  split
  · next hpast =>
      have hle : p.commands.length ≤ index := by
        rw [length_commands]
        exact List.getElem?_eq_none_iff.1 hpast
      rw [List.eraseIdx_of_length_le hle]
  · rw [commands_renest, commands, commands, List.eraseIdx_map]

/-- What is taken out is the command at the index, if there is one. -/
@[simp] theorem removed_remove (p : Program) (index : Nat) :
    (p.remove index).2 = p.commands[index]? := by
  unfold remove commands
  rw [List.getElem?_map]
  split <;> simp_all

theorem insertIdx_length_append {α : Type} (front back : List α) (a : α) :
    (front ++ back).insertIdx front.length a = front ++ a :: back := by
  induction front with
  | nil => rfl
  | cons first rest ih => exact congrArg (first :: ·) ih

/-- A command that is inserted between two parts of a program. -/
theorem commands_insert_between {p : Program} {front back : List Command} {command : Command}
    (h : p.commands = front ++ back) :
    (p.insert front.length command).commands = front ++ command :: back := by
  have hsize : front.length ≤ p.size := by
    rw [← length_commands, h, List.length_append]
    exact Nat.le_add_right _ _
  rw [commands_insert, Nat.min_eq_left hsize, h, insertIdx_length_append]

/-- A command that is taken out from between two parts of a program. -/
theorem commands_remove_between {p : Program} {front back : List Command} {command : Command}
    (h : p.commands = front ++ command :: back) :
    (p.remove front.length).1.commands = front ++ back ∧
      (p.remove front.length).2 = some command := by
  rw [commands_remove, removed_remove, h, List.eraseIdx_append_of_length_le (Nat.le_refl _),
    List.getElem?_append_right (Nat.le_refl _), Nat.sub_self]
  exact ⟨rfl, rfl⟩

@[simp] theorem commands_clear (p : Program) : p.clear.commands = [] := rfl

/-! ### Programs that can come about -/

/-- A program that can come about: one that was built from a command sequence, and
whatever edits make of such a program. -/
inductive Made : Program → Prop where
  | built (commands : List Command) : Made (ofCommands commands)
  | inserted {p : Program} (made : Made p) (index : Nat) (command : Command) :
      Made (p.insert index command)
  | pushed {p : Program} (made : Made p) (command : Command) : Made (p.push command)
  | removed {p : Program} (made : Made p) (index : Nat) : Made (p.remove index).1
  | cleared {p : Program} (made : Made p) : Made p.clear

theorem renest_ofCommands (commands : List Command) :
    (ofCommands commands).renest = ofCommands commands := by
  rw [renest, commands_ofCommands]

/-- The depths of a program that was made follow from its commands. -/
theorem Made.eq_ofCommands {p : Program} (made : p.Made) : p = ofCommands p.commands := by
  induction made with
  | built commands => rw [commands_ofCommands]
  | inserted _ index command => exact (renest_ofCommands _).symm
  | pushed _ command => exact (renest_ofCommands _).symm
  | removed _ index ih =>
      unfold remove
      split
      · exact ih
      · exact (renest_ofCommands _).symm
  | cleared => rfl

end Beamwalk.Program
