/-
Module: Beamwalk.Run.Basic
Purpose: Runs of a level that can be repeated, stopped and rolled back.
Main exports: Run, Run.ofLevel, Run.execute, Run.restore, Run.cancel, Run.reset, Report, start
-/
import Beamwalk.Run.Execution

namespace Beamwalk

/-- A level being played. -/
structure Run where
  state : RunState
  /-- The state at creation, to which the run can be rolled back. -/
  snapshot : RunState
  /-- A stop has been requested and not withdrawn. -/
  stopped : Bool
deriving Repr, DecidableEq

/-- What one execution of a program came to. -/
structure Report where
  /-- The run as the execution leaves it. -/
  run : Run
  /-- The events in the order in which they were reported. -/
  events : List RunEvent
  result : Except ProgramError Outcome

namespace Run

/-- A fresh run. -/
def ofLevel (level : Level) : Run :=
  let state := RunState.ofLevel level
  ⟨state, state, false⟩

/-- Execute a program on the current state. -/
def execute (run : Run) (program : Program) (watcher : Watcher) : Report :=
  let (x, result) := Execution.run watcher program ⟨run.state, [], run.stopped⟩
  { run := { run with state := x.state, stopped := x.stopped }
    events := x.heard.reverse
    result := result }

/-- Go back to the state at creation and withdraw a stop request. -/
def restore (run : Run) : Run := { run with state := run.snapshot, stopped := false }

/-- Request a stop. -/
def cancel (run : Run) : Run := { run with stopped := true }

/-- Withdraw a stop request. -/
def reset (run : Run) : Run := { run with stopped := false }

end Run

/-- Execute a program on a fresh run of a level. -/
def start (program : Program) (level : Level) (watcher : Watcher) : Report :=
  (Run.ofLevel level).execute program watcher

end Beamwalk
