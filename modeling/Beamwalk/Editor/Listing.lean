/-
Module: Beamwalk.Editor.Listing
Purpose: Programs as numbered and indented lines.
Main exports: Program.lines
-/
import Beamwalk.Program.Basic

namespace Beamwalk

/-- Pad a text on the left. -/
def padLeft (width : Nat) (cs : List Char) : List Char :=
  List.replicate (width - cs.length) ' ' ++ cs

/-- How deep a step is indented.  A closer lines up with its opener. -/
def Step.indentation (step : Step) : Nat :=
  match step.command with
  | .loopEnd => step.depth - 1
  | _ => step.depth

/-- The line of the step with a number. -/
def Step.line (number : Nat) (step : Step) : String :=
  String.ofList (padLeft 3 (Nat.toDigits 10 number) ++ ' ' ::
    List.replicate (2 * step.indentation) ' ') ++ step.command.label

/-- One line for each step, numbered from one. -/
def Program.lines (p : Program) : List String :=
  p.steps.mapIdx fun index step => step.line (index + 1)

end Beamwalk
