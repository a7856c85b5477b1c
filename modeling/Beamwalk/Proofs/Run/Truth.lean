/-
Module: Beamwalk.Proofs.Run.Truth
Purpose: The outcome of a run is true of the state in which the run ends, and it passes over no
  failure that was heard of.
Main exports: FailureReason.Holds, Resolves.holds, Execution.Truthful,
  Execution.truthful_performAll, Outcome.TrueOf, Run.execute_truthful
-/
import Beamwalk.Proofs.Run.Passage

namespace Beamwalk

/-- What a reason to fail says of the state and of the events at the end of a run.
Who left the grid or ran into something did so by the stride that is heard last. -/
def FailureReason.Holds (state : RunState) (events : List RunEvent) : FailureReason → Prop
  | .offGrid actor source =>
      ∃ a stride, state.actors[actor]? = some a ∧ a.pos = source ∧
        events.getLast? = some (.actorBlocked actor stride source .offGrid) ∧
        ∀ target, source.step a.facing stride.distance = some target →
          state.world.cell? target = none
  | .blocked actor pos =>
      ∃ a stride group, state.actors[actor]? = some a ∧
        events.getLast? = some (.actorBlocked actor stride a.pos (.solid pos)) ∧
        a.pos.step a.facing stride.distance = some pos ∧
        (state.world.cell? pos = some (.horizontalSource group) ∨
          state.world.cell? pos = some (.verticalSource group))
  | .struck actor pos =>
      ∃ a, state.actors[actor]? = some a ∧ a.pos = pos ∧ state.world.isLive pos = true
  | .coinsUneaten remaining => 0 < remaining ∧ remaining = state.world.coinsRemaining

/-- What nobody can stand on is a hazard source. -/
theorem CellKind.source_of_solid {kind : CellKind} (h : kind.occupiable = false) :
    ∃ group, kind = .horizontalSource group ∨ kind = .verticalSource group := by
  cases kind with
  | horizontalSource group => exact ⟨group, .inl rfl⟩
  | verticalSource group => exact ⟨group, .inr rfl⟩
  | _ => cases h

/-- A resolution that is fatal is so for a true reason. -/
theorem Resolves.holds {state : RunState} {a a' : Actor} {c : Command} {world : World}
    {r : Resolution} {reason : FailureReason} (hactor : state.actors[a.id]? = some a)
    (h : Resolves state.world a c world a' r) (hfailure : r.failure a.id = some reason)
    (before : List RunEvent) (enabled : Switches) :
    reason.Holds ⟨world, state.actors.set a.id a'⟩
      (before ++ (r.announcement a.id ++ r.consequences a.id enabled)) := by
  have hset : (state.actors.set a.id a')[a.id]? = some a' :=
    List.getElem?_set_self (List.getElem?_eq_some_iff.1 hactor).1
  cases h with
  | turned turn rotates => cases hfailure
  | offGrid stride strides absent =>
      cases hfailure
      exact ⟨a, stride, hset, rfl, List.getLast?_concat .., absent⟩
  | solid stride strides target kind ahead cell solid =>
      cases hfailure
      obtain ⟨group, rfl | rfl⟩ := CellKind.source_of_solid solid
      · exact ⟨a, stride, group, hset, List.getLast?_concat .., ahead, .inl cell⟩
      · exact ⟨a, stride, group, hset, List.getLast?_concat .., ahead, .inr cell⟩
  | moved stride strides target kind ahead cell occupiable =>
      obtain ⟨timing, hstrike, rfl⟩ := Option.map_eq_some_iff.1 hfailure
      refine ⟨_, hset, rfl, ?_⟩
      rw [← World.isSome_strike_enter]
      exact Option.isSome_iff_exists.2 ⟨timing, hstrike⟩

namespace Execution

variable {watcher : Watcher} {level : Level} {c : Command} {x y : Execution}

/-- The failures that were heard of. -/
def faults (x : Execution) : List FailureReason := x.heard.reverse.filterMap RunEvent.fault?

theorem faults_resolved (x : Execution) (index : Nat) (actor actor' : Actor) (world : World)
    (r : Resolution) :
    (x.resolved watcher index actor actor' world r).faults =
      x.faults ++ (r.failure actor.id).toList := by
  rw [faults, heard_resolved, List.filterMap_append, r.filterMap_fault?, faults]

/-- Where performing goes on, no failure has been heard of; where it fails, the reason
is true and the only one heard of; and it stops only if it is asked to. -/
inductive Truthful : Execution × Option (Halt FailureReason) → Prop where
  | unharmed {x : Execution} (faults : x.faults = []) : Truthful (x, none)
  | failed {x : Execution} {reason : FailureReason} (faults : x.faults = [reason])
      (holds : reason.Holds x.state x.heard.reverse) : Truthful (x, some (.failed reason))
  | stopped {x : Execution} (stopped : x.stopped = true) : Truthful (x, some .stopped)

theorem Truthful.faults_eq_nil (h : Truthful (x, none)) : x.faults = [] := by
  cases h with
  | unharmed faults => exact faults

theorem truthful_performFor (watcher : Watcher) (c : Command) (hsound : x.state.Sound level)
    (h : x.faults = []) (index : Nat) :
    Truthful (x.performFor watcher c index) ∧
      (x.performFor watcher c index).1.state.Sound level := by
  rcases performFor_cases watcher c x index with
    hidle | ⟨actor, actor', world, r, hactor, hresolves, hperform⟩
  · rw [hidle]
    exact ⟨.unharmed h, hsound⟩
  · have hid : actor.id = index := hsound.ids index actor hactor
    subst hid
    have hfaults : (x.resolved watcher actor.id actor actor' world r).faults = _ :=
      faults_resolved x actor.id actor actor' world r
    rw [h, List.nil_append] at hfaults
    rw [hperform]
    refine ⟨?_, ?_⟩
    · cases hfailure : r.failure actor.id with
      | none =>
          rw [hfailure] at hfaults
          exact .unharmed hfaults
      | some reason =>
          rw [hfailure] at hfaults
          rw [Option.map_some]
          split
          · next hstopped => exact .stopped hstopped
          · apply Truthful.failed hfaults
            rw [heard_resolved, state_resolved]
            exact hresolves.holds hactor hfailure _ _
    · rw [state_resolved]
      exact hsound.resolves hactor hresolves

theorem truthful_performEach (watcher : Watcher) (c : Command) (indices : List Nat)
    (hsound : x.state.Sound level) (h : x.faults = []) :
    Truthful (performEach watcher c indices x) ∧
      (performEach watcher c indices x).1.state.Sound level := by
  induction indices generalizing x with
  | nil => exact ⟨.unharmed h, hsound⟩
  | cons index rest ih =>
      obtain ⟨htruthful, hsound'⟩ := truthful_performFor watcher c hsound h index
      rw [performEach]
      rcases hperform : x.performFor watcher c index with ⟨y, _ | why⟩
      · rw [hperform] at htruthful hsound'
        exact ih hsound' htruthful.faults_eq_nil
      · rw [hperform] at htruthful hsound'
        exact ⟨htruthful, hsound'⟩

theorem truthful_performAll (watcher : Watcher) (commands : List Command)
    (hsound : x.state.Sound level) (h : x.faults = []) :
    Truthful ((machine watcher).performAll commands x) := by
  induction commands generalizing x with
  | nil =>
      cases hx : (machine watcher).stopped x with
      | true =>
          rw [Machine.performAll_of_stopped hx]
          exact .stopped hx
      | false =>
          rw [Machine.performAll_nil hx]
          exact .unharmed h
  | cons c rest ih =>
      cases hx : (machine watcher).stopped x with
      | true =>
          rw [Machine.performAll_of_stopped hx]
          exact .stopped hx
      | false =>
          have hperform : Truthful ((machine watcher).perform c x) ∧
              ((machine watcher).perform c x).1.state.Sound level :=
            truthful_performEach watcher c _ hsound h
          rw [Machine.performAll_cons hx]
          rcases hy : (machine watcher).perform c x with ⟨y, _ | why⟩
          · rw [hy] at hperform
            exact ih hperform.2 hperform.1.faults_eq_nil
          · rw [hy] at hperform
            exact hperform.1

end Execution

/-- The outcome is true of a run that ends so. -/
structure Outcome.TrueOf (outcome : Outcome) (x : Execution) : Prop where
  /-- Who succeeds has eaten all coins and met with no failure. -/
  success : outcome = .success → x.state.world.coinsRemaining = 0 ∧ x.faults = []
  failure : ∀ reason, outcome = .failure reason → reason.Holds x.state x.heard.reverse
  /-- A failure that is heard of is the outcome unless a stop has been asked for. -/
  fault : x.stopped = false → ∀ reason ∈ x.faults, outcome = .failure reason

theorem Execution.trueOf_run {watcher : Watcher} {level : Level} {x : Execution}
    (hsound : x.state.Sound level) (h : x.faults = []) (p : Program) {outcome : Outcome}
    (hresult : (run watcher p x).2 = .ok outcome) : outcome.TrueOf (run watcher p x).1 := by
  have hperformed := truthful_performAll watcher p.script hsound h
  have hends := ends_run watcher p x
  generalize run watcher p x = ended at hends hresult
  cases hends with
  | solved y hy eaten =>
      cases hresult
      rw [hy] at hperformed
      have hfaults := hperformed.faults_eq_nil
      exact ⟨fun _ => ⟨eaten, hfaults⟩, by simp, by simp [hfaults]⟩
  | uneaten y hy remaining =>
      cases hresult
      rw [hy] at hperformed
      have hfaults : (y.emit watcher (.coinsUneaten y.state.world.coinsRemaining)).faults =
          [.coinsUneaten y.state.world.coinsRemaining] := by
        have hbefore := hperformed.faults_eq_nil
        rw [faults] at hbefore
        simp [faults, emit, hbefore, RunEvent.fault?]
      refine ⟨by simp, ?_, by simp [hfaults]⟩
      rintro reason ⟨⟩
      exact ⟨remaining, rfl⟩
  | malformed y hy error => cases hresult
  | stopped y hy =>
      cases hresult
      rw [hy] at hperformed
      cases hperformed with
      | stopped hstopped => exact ⟨by simp, by simp, by simp [hstopped]⟩
  | failed y reason hy =>
      cases hresult
      rw [hy] at hperformed
      cases hperformed with
      | failed hfaults holds =>
          refine ⟨by simp, ?_, by simp [hfaults]⟩
          rintro reason' ⟨⟩
          exact holds

namespace Run

/-- An outcome is true of the state and the events at the end of the run: who
succeeds has eaten all coins and met with no failure, and the reason why a run fails
holds in the end.  A failure that is heard of is the outcome, unless a stop has been
asked for. -/
theorem execute_truthful (level : Level) (history : List Operation) (p : Program)
    (watcher : Watcher) :
    let report := (after level history).execute p watcher
    let final := report.run.state
    ∀ outcome, report.result = .ok outcome →
      (outcome = .success → final.world.coinsRemaining = 0 ∧
        ∀ event ∈ report.events, event.fault? = none) ∧
      (∀ reason, outcome = .failure reason → reason.Holds final report.events) ∧
      (report.run.stopped = false → ∀ event ∈ report.events, ∀ reason,
        event.fault? = some reason → outcome = .failure reason) := by
  intro report final outcome hresult
  have hsound : (after level history).state.Sound level :=
    ((sound_ofLevel level).operateAll history).state
  have htrue : outcome.TrueOf (Execution.run watcher p _).1 :=
    Execution.trueOf_run hsound rfl p hresult
  refine ⟨?_, htrue.failure, ?_⟩
  · intro hsuccess
    obtain ⟨heaten, hfaults⟩ := htrue.success hsuccess
    exact ⟨heaten, List.filterMap_eq_nil_iff.1 hfaults⟩
  · intro hstopped event hevent reason hfault
    exact htrue.fault hstopped reason (List.mem_filterMap.2 ⟨event, hevent, hfault⟩)

theorem execute_truthful_corridor :
    let run := after .corridor [.execute (.ofCommands [.advance]) .silent]
    let report := run.execute (.ofCommands [.jump, .jump]) .silent
    report.result = .ok (.failure (.offGrid 0 ⟨0, 3⟩)) ∧
    (FailureReason.offGrid 0 ⟨0, 3⟩).Holds report.run.state report.events ∧
    report.run.stopped = false ∧
    ∀ event ∈ report.events, ∀ reason, event.fault? = some reason →
      Outcome.failure (.offGrid 0 ⟨0, 3⟩) = .failure reason := by
  intro run report
  have hresult : report.result = .ok (.failure (.offGrid 0 ⟨0, 3⟩)) := by
    simp only [report, run, after, List.foldl, operate, execute, Execution.run_script]
    decide +kernel
  have hstopped : report.run.stopped = false := by
    simp only [report, run, after, List.foldl, operate, execute, Execution.run_script]
    decide +kernel
  obtain ⟨_, hreason, hfault⟩ := execute_truthful .corridor
    [.execute (.ofCommands [.advance]) .silent] (.ofCommands [.jump, .jump]) .silent _ hresult
  exact ⟨hresult, hreason _ rfl, hstopped, hfault hstopped⟩

end Run

end Beamwalk
