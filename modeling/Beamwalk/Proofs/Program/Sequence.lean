/-
Module: Beamwalk.Proofs.Program.Sequence
Purpose: What becomes of a program that stands behind a balanced one.
Main exports: ProgramError.behind, Outline.culprit_add, Outline.defectFrom?_add,
  Program.append, Program.script_append, Program.defect?_append
-/
import Beamwalk.Proofs.Program.Editing
import Beamwalk.Proofs.Program.Script

namespace Beamwalk

/-- The defect at its place in a program that has `offset` more commands in front. -/
def ProgramError.behind (offset : Nat) : ProgramError → ProgramError
  | .unmatchedLoopEnd index => .unmatchedLoopEnd (index + offset)
  | .unclosedLoop index => .unclosedLoop (index + offset)

namespace Outline

/-- A run comes upon the same opener wherever the openers stand. -/
theorem culprit_add (innermost offset : Nat) (openers : List (Nat × Count)) :
    culprit (innermost + offset) (openers.map fun entry => (entry.1 + offset, entry.2)) =
      culprit innermost openers + offset := by
  induction openers generalizing innermost with
  | nil => rfl
  | cons entry rest ih =>
      simp only [List.map_cons, culprit, ih]
      split <;> rfl

theorem defectFrom?_add (index offset : Nat) (tail : List (Stray × Block)) :
    defectFrom? (index + offset) tail = (defectFrom? index tail).map (.behind offset) := by
  match tail with
  | [] => rfl
  | (.closer, b) :: rest => rfl
  | (.opener count, b) :: rest =>
      simp only [defectFrom?, openersFrom_add, culprit_add, Option.map_some, ProgramError.behind]

end Outline

namespace Program

/-- One program behind the other. -/
def append (p q : Program) : Program := ofCommands (p.commands ++ q.commands)

variable {p : Program}

theorem size_head_outline (balanced : p.check = .ok ()) : p.outline.head.size = p.size := by
  rw [Block.size, commands_head_outline balanced, length_commands]

/-- Behind a balanced program the markers without a partner are those of the second
program. -/
theorem outline_append (balanced : p.check = .ok ()) (q : Program) :
    (p.append q).outline = ⟨p.outline.head.append q.outline.head, q.outline.tail⟩ := by
  rw [outline, append, commands_ofCommands, ← commands_head_outline balanced]
  exact Outline.read_append p.outline.head q.commands

/-- The second program performs its script after that of the first. -/
theorem script_append (balanced : p.check = .ok ()) (q : Program) :
    (p.append q).script = p.script ++ q.script := by
  calc (p.append q).script
      = (p.outline.head.append q.outline.head).flat ++ Outline.scriptFrom q.outline.tail := by
        rw [script, outline_append balanced]
    _ = p.outline.head.flat ++ q.script := by rw [Block.flat_append, List.append_assoc, script]
    _ = p.script ++ q.script := by rw [(script_of_check balanced).1]

/-- The defects of the second program stand as much further down as the first one is
long. -/
theorem defect?_append (balanced : p.check = .ok ()) (q : Program) :
    (p.append q).defect? = q.defect?.map (.behind p.size) := by
  calc (p.append q).defect?
      = Outline.defectFrom? (q.outline.head.size + p.size) q.outline.tail := by
        rw [defect?, outline_append balanced, Block.size_append, size_head_outline balanced,
          Nat.add_comm]
    _ = q.defect?.map (.behind p.size) := Outline.defectFrom?_add _ _ _

end Program

end Beamwalk
