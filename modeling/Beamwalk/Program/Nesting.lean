/-
Module: Beamwalk.Program.Nesting
Purpose: Which closer ends which loop, and whether all loops are balanced.
Main exports: ProgramError, ProgramError.message, matchingEnd, Program.check
-/
import Beamwalk.Program.Basic

namespace Beamwalk

/-- A defect in the nesting of loops, at the index of the marker that has no
partner. -/
inductive ProgramError where
  | unmatchedLoopEnd (index : Nat)
  | unclosedLoop (index : Nat)
deriving Repr, Inhabited, DecidableEq

namespace ProgramError

/-- The sentence shown to the author of the program. -/
def message : ProgramError → String
  | .unmatchedLoopEnd index => s!"loop end at command {index} has no matching loop start"
  | .unclosedLoop index => s!"loop started at command {index} is never closed"

end ProgramError

namespace Nesting

/-- The index of the closer that brings the number of open loops from `depth`
to zero, in a sequence whose first command has the index `index`. -/
def closerFrom : (depth : Nat) → (index : Nat) → List Command → Option Nat
  | _, _, [] => none
  | depth, index, .loopStart _ :: rest => closerFrom (depth + 1) (index + 1) rest
  | 0, _, .loopEnd :: _ => none
  | 1, index, .loopEnd :: _ => some index
  | depth + 2, index, .loopEnd :: rest => closerFrom (depth + 1) (index + 1) rest
  | depth, index, _ :: rest => closerFrom depth (index + 1) rest

/-- The index of the closer of the loop that opens at `start`. -/
def matchingEnd (commands : List Command) (start : Nat) : Option Nat :=
  closerFrom 0 start (commands.drop start)

theorem le_of_closerFrom {depth index e : Nat} {commands : List Command}
    (h : closerFrom depth index commands = some e) : index ≤ e := by
  fun_induction closerFrom depth index commands with
  | case1 => simp at h
  | case2 _ _ _ _ ih => exact Nat.le_of_succ_le (ih h)
  | case3 => simp at h
  | case4 => simp at h; omega
  | case5 _ _ _ ih => exact Nat.le_of_succ_le (ih h)
  | case6 _ _ _ _ _ _ _ _ ih => exact Nat.le_of_succ_le (ih h)

theorem le_of_matchingEnd {commands : List Command} {start e : Nat}
    (h : matchingEnd commands start = some e) : start ≤ e :=
  le_of_closerFrom h

/-- Read the markers from `index` on, with the openers that wait for a closer,
the innermost first. -/
def checkFrom : (waiting : List Nat) → (index : Nat) → List Command → Except ProgramError Unit
  | waiting, _, [] =>
      match waiting.getLast? with
      | some outermost => .error (.unclosedLoop outermost)
      | none => .ok ()
  | waiting, index, .loopStart _ :: rest => checkFrom (index :: waiting) (index + 1) rest
  | [], index, .loopEnd :: _ => .error (.unmatchedLoopEnd index)
  | _ :: waiting, index, .loopEnd :: rest => checkFrom waiting (index + 1) rest
  | waiting, index, _ :: rest => checkFrom waiting (index + 1) rest

end Nesting

namespace Program

/-- Every loop is closed and every closer has an opener.  The first stray
closer is reported, else the outermost loop left open. -/
def check (p : Program) : Except ProgramError Unit := Nesting.checkFrom [] 0 p.commands

end Program

end Beamwalk
