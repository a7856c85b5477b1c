/-
Module: Beamwalk.Level.Budget
Purpose: Caps on the commands a program may use.
Main exports: Budget, Budget.remaining, Budget.allows, Budgets
-/
import Beamwalk.Count

namespace Beamwalk

/-- A cap on one class of command. -/
inductive Budget where
  | unlimited
  | limited (max : Count)
deriving Repr, Inhabited, DecidableEq

namespace Budget

/-- What is left of a cap after `used` commands, never below zero.  The difference is
one of counts: more commands than a count can tell are taken for the most it can. -/
def remaining (budget : Budget) (used : Nat) : Budget :=
  match budget with
  | .unlimited => .unlimited
  | .limited max => .limited (max.minus (.clamp used))

/-- Whether `used` commands stay within the cap. -/
def allows (budget : Budget) (used : Nat) : Bool :=
  match budget with
  | .unlimited => true
  | .limited max => used ≤ max.val

/-- The number, or the sign for infinity. -/
def text : Budget → String
  | .unlimited => "∞"
  | .limited max => toString max.val

end Budget

/-- The caps of a level, one for each class of command. -/
structure Budgets where
  jumps : Budget := .unlimited
  loops : Budget := .unlimited
  turns : Budget := .unlimited
deriving Repr, Inhabited, DecidableEq

end Beamwalk
