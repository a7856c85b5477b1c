/-
Module: Beamwalk.Proofs.Run.Sequence
Purpose: Running two programs in one is running the second from where the first one ends.
Main exports: Watcher.since, Execution.since, Execution.run_since, Execution.run_append,
  Report.behind, Run.execute_append
-/
import Beamwalk.Proofs.Program.Sequence
import Beamwalk.Proofs.Run.Verdict

namespace Beamwalk

/-!
The second program is not executed by a fresh run but by one of which something has
been heard already.  That makes no difference to anybody but the listener, who hears
the events of the second program with those of the first one before them.
-/

/-- The listener as he would decide had he heard the past before all else. -/
def Watcher.since (watcher : Watcher) (past : List RunEvent) : Watcher :=
  fun heard => watcher (heard ++ past)

namespace Execution

variable {watcher : Watcher} {past : List RunEvent} {c : Command} {x : Execution} {p : Program}

/-- The run in progress with a past that was heard before all else. -/
def since (past : List RunEvent) (x : Execution) : Execution := { x with heard := x.heard ++ past }

theorem emitAll_since (x : Execution) (events : List RunEvent) :
    (x.since past).emitAll watcher events = (x.emitAll (watcher.since past) events).since past := by
  induction events generalizing x with
  | nil => rfl
  | cons event rest ih => exact ih (x.emit (watcher.since past) event)

theorem resolved_since (x : Execution) (index : Nat) (actor actor' : Actor) (world : World)
    (r : Resolution) :
    (x.since past).resolved watcher index actor actor' world r =
      (x.resolved (watcher.since past) index actor actor' world r).since past := by
  let announced := x.emitAll (watcher.since past) (r.announcement actor.id)
  rw [resolved, resolved, emitAll_since]
  exact emitAll_since { announced with state := ⟨world, x.state.actors.set index actor'⟩ } _

theorem performFor_since (x : Execution) (index : Nat) :
    (x.since past).performFor watcher c index =
      ((x.performFor (watcher.since past) c index).1.since past,
        (x.performFor (watcher.since past) c index).2) := by
  cases hactor : x.state.actors[index]? with
  | none => simp [performFor, since, hactor]
  | some actor =>
      cases hresolve : resolve x.state.world actor c with
      | none => simp [performFor, since, hactor, hresolve]
      | some resolved =>
          obtain ⟨world, actor', r⟩ := resolved
          have hsince : (x.since past).performFor watcher c index = _ :=
            performFor_resolved hactor hresolve
          rw [hsince, performFor_resolved hactor hresolve, resolved_since]
          rfl

theorem performEach_since (indices : List Nat) (x : Execution) :
    performEach watcher c indices (x.since past) =
      ((performEach (watcher.since past) c indices x).1.since past,
        (performEach (watcher.since past) c indices x).2) := by
  induction indices generalizing x with
  | nil => rfl
  | cons index rest ih =>
      rw [performEach, performEach, performFor_since]
      rcases x.performFor (watcher.since past) c index with ⟨y, _ | why⟩
      · exact ih y
      · rfl

theorem performAll_since (commands : List Command) (x : Execution) :
    (machine watcher).performAll commands (x.since past) =
      (((machine (watcher.since past)).performAll commands x).1.since past,
        ((machine (watcher.since past)).performAll commands x).2) := by
  induction commands generalizing x with
  | nil => cases hx : x.stopped <;> simp [Machine.performAll, machine, since, hx]
  | cons c rest ih =>
      cases hx : x.stopped with
      | true =>
          have hsince : (machine watcher).stopped (x.since past) = true := hx
          rw [Machine.performAll_of_stopped hsince, Machine.performAll_of_stopped hx]
      | false =>
          have hsince : (machine watcher).stopped (x.since past) = false := hx
          have hperform : (machine watcher).perform c (x.since past) =
              (((machine (watcher.since past)).perform c x).1.since past,
                ((machine (watcher.since past)).perform c x).2) := performEach_since _ x
          rw [Machine.performAll_cons hsince, Machine.performAll_cons hx, hperform]
          rcases (machine (watcher.since past)).perform c x with ⟨y, _ | why⟩
          · exact ih y
          · rfl

theorem settle_since (x : Execution) :
    (x.since past).settle watcher =
      ((x.settle (watcher.since past)).1.since past, (x.settle (watcher.since past)).2) := by
  have hstate : (x.since past).state = x.state := rfl
  unfold settle
  rw [hstate]
  split <;> rfl

theorem conclude_since (defect? : Option ProgramError) (x : Execution)
    (halt : Option (Halt FailureReason)) :
    conclude watcher defect? (x.since past, halt) =
      ((conclude (watcher.since past) defect? (x, halt)).1.since past,
        (conclude (watcher.since past) defect? (x, halt)).2) := by
  rcases halt with _ | _ | reason
  · cases defect? with
    | none => simp only [conclude, verdict, settle_since]
    | some error => rfl
  · cases defect? <;> rfl
  · cases defect? <;> rfl

/-- What was heard before a program is run has no effect but on the listener. -/
theorem run_since (past : List RunEvent) (p : Program) (x : Execution) :
    run watcher p (x.since past) =
      ((run (watcher.since past) p x).1.since past, (run (watcher.since past) p x).2) := by
  rw [run_script, run_script, performAll_since, conclude_since]

theorem conclude_behind (offset : Nat) (defect? : Option ProgramError)
    (performed : Execution × Option (Halt FailureReason)) :
    conclude watcher (defect?.map (.behind offset)) performed =
      ((conclude watcher defect? performed).1,
        (conclude watcher defect? performed).2.mapError (.behind offset)) := by
  rcases performed with ⟨y, _ | _ | reason⟩ <;> cases defect? <;> rfl

/-- The second of two programs is run where the script of the first one ends, unless
the run ends before. -/
theorem run_append (balanced : p.check = .ok ()) (q : Program) (x : Execution) :
    run watcher (p.append q) x =
      match (machine watcher).performAll p.script x with
      | (y, none) => ((run watcher q y).1, (run watcher q y).2.mapError (.behind p.size))
      | performed => verdict watcher performed := by
  rw [run_script, Program.script_append balanced, Program.defect?_append balanced,
    conclude_behind, Machine.performAll_append]
  rcases (machine watcher).performAll p.script x with ⟨y, _ | _ | reason⟩
  · simp only [run_script q y]
  · cases q.defect? <;> rfl
  · cases q.defect? <;> rfl

end Execution

/-- The report as it is given of a program that stands behind `offset` commands which
have caused some events. -/
def Report.behind (report : Report) (offset : Nat) (events : List RunEvent) : Report where
  run := report.run
  events := events ++ report.events
  result := report.result.mapError (.behind offset)

namespace Run

variable {p q : Program} {run : Run} {watcher : Watcher} {y : Execution}

/-- Where the script of the first program comes to its end, the second one is executed. -/
theorem execute_append_of_performed (balanced : p.check = .ok ())
    (performed : (Execution.machine watcher).performAll p.script ⟨run.state, [], run.stopped⟩ =
      (y, none)) :
    run.execute (p.append q) watcher =
      (({ run with state := y.state, stopped := y.stopped } : Run).execute q
        (watcher.since y.heard)).behind p.size y.heard.reverse := by
  have hbehind : Execution.run watcher q y = _ :=
    Execution.run_since y.heard q ⟨y.state, [], y.stopped⟩
  rw [execute, Execution.run_append balanced, performed]
  simp only [hbehind]
  simp [execute, Report.behind, Execution.since]

/-- Where the first program is given up, the second one makes no difference. -/
theorem execute_append_of_halted {why : Halt FailureReason} (balanced : p.check = .ok ())
    (performed : (Execution.machine watcher).performAll p.script ⟨run.state, [], run.stopped⟩ =
      (y, some why)) :
    run.execute (p.append q) watcher = run.execute p watcher := by
  have hdefect : p.defect? = none := (Program.script_of_check balanced).2
  rw [execute, execute, Execution.run_append balanced, Execution.run_script, hdefect, performed]
  cases why <;> rfl

/-- A balanced program and any other in one are executed one after the other.  If an
actor comes to grief in the first program, the second one makes no difference.  If it
comes to its verdict, all that happens is what the second program does from the state
in which the first one ends: the events of the first go before, except that the coins
which are left are not reported yet, and a defect of the second program stands as much
further down as the first one is long. -/
theorem execute_append (balanced : p.check = .ok ()) (q : Program) (run : Run) :
    let first := run.execute p .silent
    let second := first.run.execute q .silent
    let both := run.execute (p.append q) .silent
    (∀ reason, reason.Mishap → first.result = .ok (.failure reason) → both = first) ∧
    (first.result = .ok .success → both = second.behind p.size first.events) ∧
    ∀ remaining, first.result = .ok (.failure (.coinsUneaten remaining)) →
      ∃ events, first.events = events ++ [.coinsUneaten remaining] ∧
        both = second.behind p.size events := by
  intro first second both
  have hends := Execution.ends_run .silent p ⟨run.state, [], run.stopped⟩
  generalize hrun : Execution.run .silent p ⟨run.state, [], run.stopped⟩ = ended at hends
  have hfirst : first = ⟨{ run with state := ended.1.state, stopped := ended.1.stopped },
      ended.1.heard.reverse, ended.2⟩ := by rw [← hrun]; rfl
  cases hends with
  | solved y performed =>
      have hboth : both = second.behind p.size first.events := by
        simp only [second, hfirst]
        exact execute_append_of_performed balanced performed
      simp [hfirst, hboth]
  | uneaten y performed =>
      have hboth : both = second.behind p.size y.heard.reverse := by
        -- A listener who is silent does not ask for a stop at the report of the coins either.
        simp only [second, hfirst, Execution.emit, Watcher.silent, Bool.or_false]
        exact execute_append_of_performed balanced performed
      refine ⟨fun reason hmishap hresult => ?_, ?_, fun remaining hresult => ?_⟩
      · rw [hfirst] at hresult
        cases hresult
        exact hmishap.elim
      · simp [hfirst]
      · rw [hfirst] at hresult
        cases hresult
        exact ⟨y.heard.reverse, by simp [hfirst, Execution.emit], hboth⟩
  | malformed y _ error => simp [hfirst]
  | stopped y => simp [hfirst]
  | failed y reason performed =>
      have hmishap : reason.Mishap :=
        Machine.performAll_halt (Execution.failsFor_machine .silent) performed
      refine ⟨fun _ _ _ => execute_append_of_halted balanced performed, ?_, ?_⟩
      · simp [hfirst]
      · intro remaining hresult
        rw [hfirst] at hresult
        cases hresult
        exact hmishap.elim

/-- Two steps to the first coin and past it, in a loop.  Behind them stands a program with
a stray closer, which would eat the second coin. -/
theorem execute_append_corridor :
    let p := Program.ofCommands [.loopStart ⟨2, by decide⟩, .advance, .loopEnd]
    let q := Program.ofCommands [.advance, .loopEnd]
    let both := (Run.ofLevel .corridor).execute (p.append q) .silent
    p.check = .ok () ∧
    ((Run.ofLevel .corridor).execute p .silent).result = .ok (.failure (.coinsUneaten 1)) ∧
    both.result = .error (.unmatchedLoopEnd 4) ∧
    both.events =
      [.actorAdvanced 0 ⟨0, 0⟩ ⟨0, 1⟩, .coinCollected 0 ⟨0, 1⟩, .actorAdvanced 0 ⟨0, 1⟩ ⟨0, 2⟩,
        .actorAdvanced 0 ⟨0, 2⟩ ⟨0, 3⟩, .coinCollected 0 ⟨0, 3⟩] := by
  intro p q both
  let first := (Run.ofLevel .corridor).execute p .silent
  have huneaten : first.result = .ok (.failure (.coinsUneaten 1)) := by
    simp only [first, execute, Execution.run_script]
    decide +kernel
  have heard : first.events =
      [.actorAdvanced 0 ⟨0, 0⟩ ⟨0, 1⟩, .coinCollected 0 ⟨0, 1⟩, .actorAdvanced 0 ⟨0, 1⟩ ⟨0, 2⟩] ++
        [.coinsUneaten 1] := by
    simp only [first, execute, Execution.run_script]
    decide +kernel
  have hsecond : (first.run.execute q .silent).result = .error (.unmatchedLoopEnd 1) ∧
      (first.run.execute q .silent).events =
        [.actorAdvanced 0 ⟨0, 2⟩ ⟨0, 3⟩, .coinCollected 0 ⟨0, 3⟩] := by
    simp only [first, execute, Execution.run_script]
    decide +kernel
  obtain ⟨events, hevents, hboth⟩ :=
    (execute_append (p := p) rfl q (.ofLevel .corridor)).2.2 1 huneaten
  have hbefore : events = _ := List.append_cancel_right (hevents.symm.trans heard)
  have hreport : both = (first.run.execute q .silent).behind p.size events := hboth
  refine ⟨rfl, huneaten, ?_, ?_⟩
  · rw [hreport, Report.behind, hsecond.1]
    rfl
  · rw [hreport, Report.behind, hsecond.2, hbefore]
    rfl

end Run

end Beamwalk
