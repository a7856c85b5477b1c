/-
Module: Beamwalk.Proofs.Run.Step
Purpose: What one command does to a run in progress.
Main exports: FailureReason.Mishap, Execution.performFor_resolved, Execution.performFor_idle,
  Execution.passesReserved_machine, Execution.failsFor_machine
-/
import Beamwalk.Run.Execution
import Beamwalk.Proofs.Program.Script

namespace Beamwalk

/-- A reason for which a single command can fail, as opposed to the verdict at
the end of the program. -/
def FailureReason.Mishap : FailureReason → Prop
  | .offGrid _ _ | .blocked _ _ | .struck _ _ => True
  | .coinsUneaten _ => False

theorem Resolution.mishap_of_failure {r : Resolution} {actor : Nat} {reason : FailureReason}
    (h : r.failure actor = some reason) : reason.Mishap := by
  cases r with
  | turned turn facing => simp [failure] at h
  | moved move =>
      simp only [failure, Option.map_eq_some_iff] at h
      obtain ⟨_, _, rfl⟩ := h
      trivial
  | blocked stride source obstacle =>
      cases obstacle with
      | offGrid =>
          cases h
          trivial
      | solid pos =>
          cases h
          trivial

/-- Only commands that move or turn actors resolve to anything. -/
theorem resolve_of_reserved {c : Command} (h : c.isReserved = true) (w : World) (a : Actor) :
    resolve w a c = none := by
  cases c <;> simp [Command.isReserved, resolve] at h ⊢

namespace Execution

variable {watcher : Watcher} {c : Command} {x y : Execution}

@[simp] theorem state_emitAll (x : Execution) (events : List RunEvent) :
    (x.emitAll watcher events).state = x.state := by
  induction events generalizing x with
  | nil => rfl
  | cons event rest ih => exact ih (x.emit watcher event)

/-- A command that resolves to nothing changes nothing. -/
theorem performFor_idle (h : ∀ w a, resolve w a c = none) (index : Nat) :
    x.performFor watcher c index = (x, none) := by
  unfold performFor
  split
  · rfl
  · rw [h]

/-- The run after a resolution for the actor at an index: announced, carried out
and reported. -/
def resolved (watcher : Watcher) (x : Execution) (index : Nat) (actor actor' : Actor)
    (world : World) (r : Resolution) : Execution :=
  let announced := x.emitAll watcher (r.announcement actor.id)
  let changed := { announced with state := ⟨world, x.state.actors.set index actor'⟩ }
  changed.emitAll watcher (r.consequences actor.id world.hazards.enabled)

@[simp] theorem state_resolved (x : Execution) (index : Nat) (actor actor' : Actor)
    (world : World) (r : Resolution) :
    (x.resolved watcher index actor actor' world r).state =
      ⟨world, x.state.actors.set index actor'⟩ := by
  simp [resolved]

/-- A fatal resolution ends the run, unless a stop has been asked for by then. -/
theorem performFor_resolved {index : Nat} {actor actor' : Actor} {world : World} {r : Resolution}
    (hactor : x.state.actors[index]? = some actor)
    (hresolve : resolve x.state.world actor c = some (world, actor', r)) :
    x.performFor watcher c index =
      (x.resolved watcher index actor actor' world r,
        (r.failure actor.id).map fun reason =>
          if (x.resolved watcher index actor actor' world r).stopped then .stopped
          else .failed reason) := by
  unfold performFor
  simp only [hactor, hresolve]
  cases r.failure actor.id with
  | none => rfl
  | some reason => rfl

/-- What ends a run in a single command is a mishap or a stop. -/
theorem performFor_halt {index : Nat} {why : Halt FailureReason}
    (h : x.performFor watcher c index = (y, some why)) : why.Of FailureReason.Mishap := by
  cases hactor : x.state.actors[index]? with
  | none => simp [performFor, hactor] at h
  | some actor =>
      cases hresolve : resolve x.state.world actor c with
      | none => simp [performFor, hactor, hresolve] at h
      | some resolved =>
          obtain ⟨world, actor', r⟩ := resolved
          rw [performFor_resolved hactor hresolve] at h
          cases hfailure : r.failure actor.id with
          | none => simp [hfailure] at h
          | some reason =>
              simp only [hfailure, Option.map_some, Prod.mk.injEq, Option.some.injEq] at h
              rw [← h.2]
              split
              · trivial
              · exact Resolution.mishap_of_failure hfailure

theorem performEach_idle (h : ∀ w a, resolve w a c = none) (indices : List Nat) :
    performEach watcher c indices x = (x, none) := by
  induction indices with
  | nil => rfl
  | cons index rest ih => simp [performEach, performFor_idle h, ih]

theorem performEach_halt {indices : List Nat} {why : Halt FailureReason}
    (h : performEach watcher c indices x = (y, some why)) : why.Of FailureReason.Mishap := by
  induction indices generalizing x with
  | nil => simp [performEach] at h
  | cons index rest ih =>
      rw [performEach] at h
      rcases hfor : x.performFor watcher c index with ⟨z, _ | why'⟩
      · rw [hfor] at h
        exact ih h
      · rw [hfor] at h
        cases h
        exact performFor_halt hfor

/-- Runs pass over the reserved markers. -/
theorem passesReserved_machine (watcher : Watcher) : (machine watcher).PassesReserved :=
  fun _ _ h => performEach_idle (resolve_of_reserved h) _

/-- A run fails before the end of its program only by a mishap. -/
theorem failsFor_machine (watcher : Watcher) :
    (machine watcher).FailsFor FailureReason.Mishap :=
  fun _ _ _ _ h => performEach_halt h

end Execution

end Beamwalk
