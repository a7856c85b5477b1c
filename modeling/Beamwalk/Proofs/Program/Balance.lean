/-
Module: Beamwalk.Proofs.Program.Balance
Purpose: What the search for a closer and the balance check find in an outline.
Main exports: Nesting.closerFrom_block, Nesting.matchingEnd_loop, Nesting.checkFrom_block,
  Program.check_eq_outline, Program.commands_head_outline
-/
import Beamwalk.Program.Nesting
import Beamwalk.Proofs.Program.Block

namespace Beamwalk

namespace Nesting

theorem closerFrom_plain {c : Command} (plain : c.isMarker = false) (depth index : Nat)
    (rest : List Command) :
    closerFrom depth index (c :: rest) = closerFrom depth (index + 1) rest := by
  cases c <;> simp [closerFrom, Command.isMarker] at plain ⊢

/-- The search for the closer of an open loop passes over a balanced stretch. -/
theorem closerFrom_block (b : Block) (depth index : Nat) (rest : List Command) :
    closerFrom (depth + 1) index (b.commands ++ rest) =
      closerFrom (depth + 1) (index + b.size) rest := by
  induction b generalizing depth index rest with
  | done => rfl
  | step command plain next ih =>
      simp only [Block.commands, List.cons_append, closerFrom_plain plain, ih, Block.size_step]
      congr 1
      omega
  | loop count body next ihBody ihNext =>
      have hsplit : (Block.loop count body next).commands ++ rest =
          .loopStart count :: (body.commands ++ .loopEnd :: (next.commands ++ rest)) := by
        simp [Block.commands]
      calc closerFrom (depth + 1) index ((Block.loop count body next).commands ++ rest)
          = closerFrom (depth + 2) (index + 1)
              (body.commands ++ .loopEnd :: (next.commands ++ rest)) := by
            rw [hsplit, closerFrom]
        _ = closerFrom (depth + 2) (index + 1 + body.size)
              (.loopEnd :: (next.commands ++ rest)) := ihBody ..
        _ = closerFrom (depth + 1) (index + 1 + body.size + 1) (next.commands ++ rest) := by
            rw [closerFrom]
        _ = closerFrom (depth + 1) (index + 1 + body.size + 1 + next.size) rest := ihNext ..
        _ = closerFrom (depth + 1) (index + (Block.loop count body next).size) rest := by
            rw [Block.size_loop]
            congr 1
            omega

/-- The closer of a loop stands behind its body. -/
theorem matchingEnd_loop {commands rest : List Command} {start : Nat} {count : Count}
    {body : Block}
    (h : commands.drop start = .loopStart count :: (body.commands ++ .loopEnd :: rest)) :
    matchingEnd commands start = some (start + 1 + body.size) := by
  rw [matchingEnd, h, closerFrom, closerFrom_block, closerFrom]

theorem checkFrom_plain {c : Command} (plain : c.isMarker = false) (waiting : List Nat)
    (index : Nat) (rest : List Command) :
    checkFrom waiting index (c :: rest) = checkFrom waiting (index + 1) rest := by
  cases c <;> simp [checkFrom, Command.isMarker] at plain ⊢

/-- A balanced stretch does not change which openers wait. -/
theorem checkFrom_block (b : Block) (waiting : List Nat) (index : Nat) (rest : List Command) :
    checkFrom waiting index (b.commands ++ rest) = checkFrom waiting (index + b.size) rest := by
  induction b generalizing waiting index rest with
  | done => rfl
  | step command plain next ih =>
      simp only [Block.commands, List.cons_append, checkFrom_plain plain, ih, Block.size_step]
      congr 1
      omega
  | loop count body next ihBody ihNext =>
      have hsplit : (Block.loop count body next).commands ++ rest =
          .loopStart count :: (body.commands ++ .loopEnd :: (next.commands ++ rest)) := by
        simp [Block.commands]
      calc checkFrom waiting index ((Block.loop count body next).commands ++ rest)
          = checkFrom (index :: waiting) (index + 1)
              (body.commands ++ .loopEnd :: (next.commands ++ rest)) := by
            rw [hsplit, checkFrom]
        _ = checkFrom (index :: waiting) (index + 1 + body.size)
              (.loopEnd :: (next.commands ++ rest)) := ihBody ..
        _ = checkFrom waiting (index + 1 + body.size + 1) (next.commands ++ rest) := by
            rw [checkFrom]
        _ = checkFrom waiting (index + 1 + body.size + 1 + next.size) rest := ihNext ..
        _ = checkFrom waiting (index + (Block.loop count body next).size) rest := by
            rw [Block.size_loop]
            congr 1
            omega

/-- Behind an opener that waits, openers without a partner leave it the
outermost one. -/
theorem checkFrom_openers {tail : List (Stray × Block)} (hopen : ∀ entry ∈ tail, entry.1 ≠ .closer)
    (waiting : List Nat) (outermost index : Nat) :
    checkFrom (waiting ++ [outermost]) index (Outline.tailCommands tail) =
      .error (.unclosedLoop outermost) := by
  induction tail generalizing waiting index with
  | nil =>
      rw [Outline.tailCommands, checkFrom.eq_def]
      simp
  | cons entry rest ih =>
      obtain ⟨marker, b⟩ := entry
      cases marker with
      | closer => exact absurd rfl (hopen (.closer, b) (by simp))
      | opener count =>
          have hrest := ih (fun entry hentry => hopen entry (by simp [hentry])) (index :: waiting)
            (index + 1 + b.size)
          rw [Outline.tailCommands, Stray.command, checkFrom, checkFrom_block]
          simpa using hrest

end Nesting

namespace Program

/-- The balance check reports the first marker without a partner. -/
theorem check_eq_outline (p : Program) :
    p.check =
      match p.outline.tail with
      | [] => .ok ()
      | (.closer, _) :: _ => .error (.unmatchedLoopEnd p.outline.head.size)
      | (.opener _, _) :: _ => .error (.unclosedLoop p.outline.head.size) := by
  have hcommands : p.commands = p.outline.head.commands ++ Outline.tailCommands p.outline.tail :=
    (Outline.commands_read p.commands).symm
  have hordered : Outline.ClosersFirst p.outline.tail := Outline.closersFirst_read p.commands
  rw [check, hcommands, Nesting.checkFrom_block, Nat.zero_add]
  match htail : p.outline.tail with
  | [] => rfl
  | (.closer, b) :: rest => rfl
  | (.opener count, b) :: rest =>
      rw [htail] at hordered
      rw [Outline.tailCommands, Stray.command, Nesting.checkFrom, Nesting.checkFrom_block]
      exact Nesting.checkFrom_openers hordered [] _ _

theorem tail_outline_of_check {p : Program} (balanced : p.check = .ok ()) :
    p.outline.tail = [] := by
  rw [check_eq_outline] at balanced
  match htail : p.outline.tail with
  | [] => rfl
  | (.closer, b) :: rest => simp [htail] at balanced
  | (.opener count, b) :: rest => simp [htail] at balanced

/-- A balanced program is spelled by the head of its outline. -/
theorem commands_head_outline {p : Program} (balanced : p.check = .ok ()) :
    p.outline.head.commands = p.commands := by
  have hcommands : p.outline.commands = p.commands := Outline.commands_read p.commands
  rwa [Outline.commands, tail_outline_of_check balanced, Outline.tailCommands,
    List.append_nil] at hcommands

end Program

end Beamwalk
