/-
Module: Beamwalk.Run.Execution
Purpose: Performing commands for all actors, reporting events and obeying stop requests.
Main exports: Watcher, Execution, Execution.emit, Execution.perform, Execution.machine
-/
import Beamwalk.Program.Control
import Beamwalk.Run.State

namespace Beamwalk

/-!
A command is performed actor by actor, in the order in which the actors were
spawned, and each actor meets the world that the actors before it left.  What
the command will do to an actor is announced first; then it takes effect, and
what it changed in the world is reported.  Whoever listens to the events may
ask for a stop at any of them.  The request is honoured between commands, and a
failure that has not been declared yet gives way to it.
-/

/-- A listener: given the events received so far, the latest first, whether to
ask for a stop now that the latest has arrived.

A listener that also withdraws its requests is left out.  A request is looked at
before a command, where a failure is about to be declared, and at the end of the
program, and nowhere else.  What such a listener stands by then is asked for just
as well by one that speaks up at the last event before, and a request that is
withdrawn in time by one that keeps silent, so that no result is lost. -/
abbrev Watcher := List RunEvent → Bool

/-- The listener that never asks for a stop. -/
def Watcher.silent : Watcher := fun _ => false

/-- A run in progress. -/
structure Execution where
  state : RunState
  /-- The events reported so far, the latest first. -/
  heard : List RunEvent
  /-- A stop has been requested. -/
  stopped : Bool
deriving Repr, DecidableEq

namespace Resolution

/-- What is announced before a resolution takes effect. -/
def announcement (actor : Nat) : Resolution → List RunEvent
  | .turned turn facing => [.actorTurned actor turn facing]
  | .moved move =>
      let moved := match move.stride with
        | .advance => RunEvent.actorAdvanced actor move.source move.target
        | .jump => RunEvent.actorJumped actor move.source move.target
      moved :: (move.strike.map (RunEvent.actorStruck actor move.target ·)).toList
  | .blocked stride source obstacle => [.actorBlocked actor stride source obstacle]

/-- What is reported after a resolution has taken effect; `enabled` are the
groups that are on by then. -/
def consequences (actor : Nat) (enabled : Switches) : Resolution → List RunEvent
  | .moved move =>
      (if move.coin then [.coinCollected actor move.target] else [])
        ++ (move.toggled.map (RunEvent.hazardsToggled · enabled)).toList
  | _ => []

end Resolution

namespace Execution

/-- Report one event. -/
def emit (watcher : Watcher) (x : Execution) (event : RunEvent) : Execution :=
  { x with
    heard := event :: x.heard
    stopped := x.stopped || watcher (event :: x.heard) }

/-- Report several events in order. -/
def emitAll (watcher : Watcher) (x : Execution) (events : List RunEvent) : Execution :=
  events.foldl (emit watcher) x

/-- Perform a command for the actor at an index. -/
def performFor (watcher : Watcher) (command : Command) (x : Execution) (index : Nat) :
    Execution × Option (Halt FailureReason) :=
  match x.state.actors[index]? with
  | none => (x, none)
  | some actor =>
      match resolve x.state.world actor command with
      | none => (x, none)
      | some (world, actor', resolution) =>
          let announced := x.emitAll watcher (resolution.announcement actor.id)
          let changed := { announced with state := ⟨world, x.state.actors.set index actor'⟩ }
          let reported :=
            changed.emitAll watcher (resolution.consequences actor.id world.hazards.enabled)
          match resolution.failure actor.id with
          | none => (reported, none)
          | some reason =>
              (reported, some (if reported.stopped then .stopped else .failed reason))

/-- Perform a command for the actors at the given indices, up to the first one
whose resolution is fatal. -/
def performEach (watcher : Watcher) (command : Command) :
    List Nat → Execution → Execution × Option (Halt FailureReason)
  | [], x => (x, none)
  | index :: rest, x =>
      match x.performFor watcher command index with
      | (x', none) => performEach watcher command rest x'
      | (x', some why) => (x', some why)

/-- Perform a command for every actor. -/
def perform (watcher : Watcher) (command : Command) (x : Execution) :
    Execution × Option (Halt FailureReason) :=
  performEach watcher command (List.range x.state.actors.length) x

/-- The machine that runs programs on a level. -/
def machine (watcher : Watcher) : Machine Execution FailureReason where
  stopped := Execution.stopped
  perform := perform watcher

/-- The verdict at the end of a program: every coin must have been eaten. -/
def settle (watcher : Watcher) (x : Execution) : Execution × Outcome :=
  match x.state.world.coinsRemaining with
  | 0 => (x, .success)
  | remaining + 1 =>
      (x.emit watcher (.coinsUneaten (remaining + 1)), .failure (.coinsUneaten (remaining + 1)))

/-- Run a program from its first command. -/
def run (watcher : Watcher) (program : Program) (x : Execution) :
    Execution × Except ProgramError Outcome :=
  match Control.block (machine watcher) program.commands 0 0 (Nat.le_refl _) none x with
  | .next _ _ x' =>
      if x'.stopped then (x', .ok .cancelled)
      else
        let (settled, outcome) := x'.settle watcher
        (settled, .ok outcome)
  | .halted .stopped x' => (x', .ok .cancelled)
  | .halted (.failed reason) x' => (x', .ok (.failure reason))
  | .malformed error x' => (x', .error error)

end Execution

end Beamwalk
