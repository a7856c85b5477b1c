/-
Module: Beamwalk.Proofs.Run.Termination
Purpose: Every execution comes to an end, with as many blocks on the stack on the way as the
  commands are deep.
Main exports: Execution.ending, Execution.run_eq_ending, Run.stage, Run.execute_terminates
-/
import Beamwalk.Proofs.Program.Frames
import Beamwalk.Proofs.Run.Course

namespace Beamwalk

/-- What an execution comes to when control comes back from its program. -/
def Execution.ending (watcher : Watcher) :
    Flow Execution FailureReason 0 → Execution × Except ProgramError Outcome
  | .next _ _ x =>
      if x.stopped then (x, .ok .cancelled)
      else ((x.settle watcher).1, .ok (x.settle watcher).2)
  | .halted .stopped x => (x, .ok .cancelled)
  | .halted (.failed reason) x => (x, .ok (.failure reason))
  | .malformed error x => (x, .error error)

theorem Execution.run_eq_ending (watcher : Watcher) (p : Program) (x : Execution) :
    run watcher p x =
      ending watcher (Control.block (machine watcher) p.commands 0 0 (Nat.le_refl 0) none x) := by
  unfold run ending
  rfl

namespace Run

/-- The execution of a program after some steps. -/
def stage (run : Run) (program : Program) (watcher : Watcher) (steps : Nat) :
    Stage Execution FailureReason :=
  (Stage.step (Execution.machine watcher) program.commands)^[steps]
    (.running (.program 0) ⟨run.state, [], run.stopped⟩)

/-- The report of an execution that has come to an end. -/
def report (run : Run) (ended : Execution × Except ProgramError Outcome) : Report where
  run := { run with state := ended.1.state, stopped := ended.1.stopped }
  events := ended.1.heard.reverse
  result := ended.2

variable {run : Run} {p : Program} {watcher : Watcher}

theorem fits_stage {steps : Nat} {frames : Frames} {x : Execution}
    (h : run.stage p watcher steps = .running frames x) : frames.Fits p.commands := by
  have hfits := Stage.fits_run (Execution.machine watcher) p.commands
    ⟨run.state, [], run.stopped⟩ steps
  rw [stage] at h
  rwa [h] at hfits

/-- Whatever the program, the run and the watcher, some number of steps brings the
execution to an end, which is what is reported.  On the way, the block on top of the
stack is always being run from its cursor on, and its result is handed to what is below
it.  Whenever a command is come to, there are as many blocks on the stack as loops are
open around the command, and the one of the program; so there are never more than the
largest depth and one, or two at the end of a program in which a loop is left open. -/
theorem execute_terminates (run : Run) (made : p.Made) (watcher : Watcher) :
    (∃ steps flow, run.stage p watcher steps = .finished flow ∧
      run.execute p watcher = run.report (Execution.ending watcher flow)) ∧
    (∀ steps frames x, run.stage p watcher steps = .running frames x →
      ∃ more, run.stage p watcher (more + steps) =
        Stage.deliver frames (Control.block (Execution.machine watcher) p.commands 0
          frames.cursor (Nat.zero_le _) frames.opener? x)) ∧
    (∀ steps frames x step, run.stage p watcher steps = .running frames x →
      p.get? frames.cursor = some step → frames.height = step.depth + 1) ∧
    ∀ steps frames x, run.stage p watcher steps = .running frames x →
      frames.height ≤ p.deepest + 1 ∨
        (p.size ≤ frames.cursor ∧ (∃ start count, Nesting.Unclosed p.commands start count) ∧
          frames.height ≤ p.deepest + 2) := by
  refine ⟨?_, fun steps frames x h => ?_, fun steps frames x step h hstep => ?_,
    fun steps frames x h => ?_⟩
  · obtain ⟨steps, hsteps⟩ := Stage.exists_finished (Execution.machine watcher) p.commands
      ⟨run.state, [], run.stopped⟩
    refine ⟨steps, _, hsteps, ?_⟩
    rw [← Execution.run_eq_ending]
    rfl
  · obtain ⟨more, hmore⟩ := Stage.runs_block (Execution.machine watcher) p.commands frames x
      0 frames.cursor rfl (Nat.zero_le _)
    refine ⟨more, ?_⟩
    rw [stage, Function.iterate_add_apply, ← stage, h]
    exact hmore
  · exact made.height_eq (fits_stage h) hstep
  · exact made.height_le (fits_stage h)

end Run

/-- Two loops that are left open behind one that is closed. -/
def Program.ajar : Program :=
  .ofCommands [.loopStart (.clamp 2), .advance, .loopEnd, .loopStart (.clamp 3),
    .loopStart (.clamp 1)]

/-- The third step is the second round of the loop that is closed, and the seventh is at
the end of the program. -/
theorem Run.execute_terminates_ajar :
    let run := Run.ofLevel .corridor
    let round := Frames.body 1 0 0 (.program 0)
    let last := Frames.body 5 4 0 (.body 4 3 2 (.program 3))
    Program.ajar.Made ∧
    (∃ steps flow, run.stage .ajar .silent steps = .finished flow) ∧
    (∃ x, run.stage .ajar .silent 3 = .running round x ∧
      Program.ajar.get? 1 = some ⟨.advance, 1⟩ ∧ round.height = 1 + 1) ∧
    ∃ x, run.stage .ajar .silent 7 = .running last x ∧
      (∃ start count, Nesting.Unclosed Program.ajar.commands start count) ∧
      last.height = Program.ajar.deepest + 2 := by
  intro run round last
  have made : Program.ajar.Made := .built _
  obtain ⟨⟨steps, flow, hfinished, _⟩, _, hdepth, hheight⟩ := execute_terminates run made .silent
  obtain ⟨x, hx⟩ : ∃ x, run.stage .ajar .silent 3 = .running round x := ⟨_, rfl⟩
  obtain ⟨y, hy⟩ : ∃ y, run.stage .ajar .silent 7 = .running last y := ⟨_, rfl⟩
  have hopen : ∃ start count, Nesting.Unclosed Program.ajar.commands start count := by
    rcases hheight 7 last y hy with hlow | ⟨_, hopen, _⟩
    · exact absurd hlow (by decide)
    · exact hopen
  exact ⟨made, ⟨steps, flow, hfinished⟩, ⟨x, hx, rfl, hdepth 3 round x _ hx rfl⟩, y, hy, hopen, rfl⟩

end Beamwalk
