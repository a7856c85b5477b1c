/-
Module: Beamwalk.Proofs.Run.Cancellation
Purpose: A stop request ends a run with the command during which it is made, and changes nothing
  before that.
Main exports: Watcher.atEvent, Execution.cut, Execution.performAll_cut, Execution.run_cut,
  Run.execute_atEvent
-/
import Beamwalk.Proofs.Run.Course

namespace Beamwalk

/-- The listener that asks for a stop at the event with the given number, the
first one having number one. -/
def Watcher.atEvent (k : Nat) : Watcher := fun heard => heard.length == k

namespace Execution

/-!
Two runs are compared: one whose listener is silent, and one whose listener asks
for a stop at its `k`-th event.  As long as no command ends with `k` events heard,
they differ in nothing; when one does, the second run goes no further.
-/

/-- A run in progress if a stop is requested at event `k`. -/
def cut (k : Nat) (x : Execution) : Execution := { x with stopped := decide (k ≤ x.heard.length) }

/-- What performing came to if a stop is requested at event `k`: a failure that is
declared after it gives way to it. -/
def cutPerformed (k : Nat) (performed : Execution × Option (Halt FailureReason)) :
    Execution × Option (Halt FailureReason) :=
  (performed.1.cut k,
    performed.2.map fun why => if k ≤ performed.1.heard.length then .stopped else why)

variable {k : Nat} {c : Command} {x y : Execution}

/-! ### Nobody asks a silent run to stop -/

theorem stopped_emitAll_silent (x : Execution) (events : List RunEvent) :
    (x.emitAll .silent events).stopped = x.stopped := by
  induction events generalizing x with
  | nil => rfl
  | cons event rest ih =>
      calc ((x.emit .silent event).emitAll .silent rest).stopped
          = (x.emit .silent event).stopped := ih _
        _ = x.stopped := Bool.or_false _

theorem stopped_resolved_silent (x : Execution) (index : Nat) (actor actor' : Actor)
    (world : World) (r : Resolution) :
    (x.resolved .silent index actor actor' world r).stopped = x.stopped := by
  rw [resolved, stopped_emitAll_silent, stopped_emitAll_silent]

theorem stopped_performFor_silent (hx : x.stopped = false) (index : Nat) :
    (x.performFor .silent c index).1.stopped = false := by
  rcases performFor_cases .silent c x index with
    hidle | ⟨actor, actor', world, r, _, _, hperform⟩
  · rw [hidle]
    exact hx
  · rw [hperform, stopped_resolved_silent]
    exact hx

theorem stopped_run_silent (hx : x.stopped = false) (p : Program) :
    (run .silent p x).1.stopped = false := by
  apply preserves_run (I := fun y => y.stopped = false) _ _ hx
  · intro y index actor actor' world r c hy _ _
    rw [stopped_resolved_silent]
    exact hy
  · intro y remaining hy
    exact (Bool.or_false _).trans hy

/-! ### The same events, command by command -/

theorem emit_cut (k : Nat) (x : Execution) (event : RunEvent) :
    (x.cut k).emit (.atEvent k) event = (x.emit .silent event).cut k := by
  have hstopped : (decide (k ≤ x.heard.length) || x.heard.length + 1 == k) =
      decide (k ≤ x.heard.length + 1) := by
    rw [Bool.eq_iff_iff]
    simp only [Bool.or_eq_true, decide_eq_true_eq, beq_iff_eq]
    omega
  exact congrArg (Execution.mk x.state (event :: x.heard)) hstopped

theorem emitAll_cut (k : Nat) (x : Execution) (events : List RunEvent) :
    (x.cut k).emitAll (.atEvent k) events = (x.emitAll .silent events).cut k := by
  induction events generalizing x with
  | nil => rfl
  | cons event rest ih =>
      calc ((x.cut k).emit (.atEvent k) event).emitAll (.atEvent k) rest
          = ((x.emit .silent event).cut k).emitAll (.atEvent k) rest := by rw [emit_cut]
        _ = ((x.emit .silent event).emitAll .silent rest).cut k := ih _

theorem resolved_cut (k : Nat) (x : Execution) (index : Nat) (actor actor' : Actor)
    (world : World) (r : Resolution) :
    (x.cut k).resolved (.atEvent k) index actor actor' world r =
      (x.resolved .silent index actor actor' world r).cut k := by
  have hannounced := emitAll_cut k x (r.announcement actor.id)
  rw [resolved, resolved, hannounced]
  exact emitAll_cut k { x.emitAll .silent (r.announcement actor.id) with
    state := ⟨world, x.state.actors.set index actor'⟩ } _

theorem performFor_cut (hx : x.stopped = false) (index : Nat) :
    (x.cut k).performFor (.atEvent k) c index = cutPerformed k (x.performFor .silent c index) := by
  cases hactor : x.state.actors[index]? with
  | none => simp [performFor, cut, hactor, cutPerformed]
  | some actor =>
      cases hresolve : resolve x.state.world actor c with
      | none => simp [performFor, cut, hactor, hresolve, cutPerformed]
      | some resolved =>
          obtain ⟨world, actor', r⟩ := resolved
          have hsilent : (x.resolved .silent index actor actor' world r).stopped = false :=
            (stopped_resolved_silent ..).trans hx
          have hcut : (x.cut k).performFor (.atEvent k) c index = _ :=
            performFor_resolved hactor hresolve
          rw [hcut, performFor_resolved hactor hresolve, resolved_cut, hsilent]
          cases r.failure actor.id with
          | none => rfl
          | some reason => simp [cutPerformed, cut]

theorem performEach_cut (hx : x.stopped = false) (indices : List Nat) :
    performEach (.atEvent k) c indices (x.cut k) =
      cutPerformed k (performEach .silent c indices x) := by
  induction indices generalizing x with
  | nil => rfl
  | cons index rest ih =>
      have hfor := performFor_cut (k := k) (c := c) hx index
      have hstopped := stopped_performFor_silent (c := c) hx index
      rw [performEach, performEach, hfor]
      rcases hperform : x.performFor .silent c index with ⟨y, _ | why⟩
      · rw [hperform] at hstopped
        exact ih hstopped
      · rfl

theorem perform_cut (hx : x.stopped = false) (c : Command) :
    (machine (.atEvent k)).perform c (x.cut k) = cutPerformed k ((machine .silent).perform c x) :=
  performEach_cut hx _

theorem stopped_perform_silent (hx : x.stopped = false) (c : Command) :
    ((machine .silent).perform c x).1.stopped = false := by
  apply preserves_machine (I := fun y => y.stopped = false) _ c x hx
  intro y index actor actor' world r c hy _ _
  exact (stopped_resolved_silent ..).trans hy

/-- The first state of a list in which `k` events have been heard. -/
def firstHearing (k : Nat) (states : List Execution) : Option Execution :=
  states.find? fun y => k ≤ y.heard.length

/-- Commands are performed until one of them ends with `k` events heard. -/
theorem performAll_cut (hx : x.stopped = false) (commands : List Command) :
    (machine (.atEvent k)).performAll commands (x.cut k) =
      match firstHearing k (x :: (machine .silent).visits commands x) with
      | some y => (y.cut k, some .stopped)
      | none =>
          (((machine .silent).performAll commands x).1.cut k,
            ((machine .silent).performAll commands x).2) := by
  induction commands generalizing x with
  | nil =>
      by_cases hk : k ≤ x.heard.length
      · have hstopped : (machine (.atEvent k)).stopped (x.cut k) = true := decide_eq_true hk
        rw [Machine.performAll_of_stopped hstopped]
        simp [firstHearing, hk]
      · have hrunning : (machine (.atEvent k)).stopped (x.cut k) = false := decide_eq_false hk
        have hsilent : (machine .silent).stopped x = false := hx
        rw [Machine.performAll_nil hrunning, Machine.performAll_nil hsilent]
        simp [firstHearing, hk, Machine.visits]
  | cons c rest ih =>
      by_cases hk : k ≤ x.heard.length
      · have hstopped : (machine (.atEvent k)).stopped (x.cut k) = true := decide_eq_true hk
        rw [Machine.performAll_of_stopped hstopped]
        simp [firstHearing, hk]
      · have hrunning : (machine (.atEvent k)).stopped (x.cut k) = false := decide_eq_false hk
        have hsilent : (machine .silent).stopped x = false := hx
        have hfirst : ∀ states, firstHearing k (x :: states) = firstHearing k states :=
          fun states => List.find?_cons_of_neg (by simpa using hk)
        have hy := stopped_perform_silent hx c
        rw [Machine.performAll_cons hrunning, Machine.performAll_cons hsilent,
          Machine.visits_cons hsilent, perform_cut hx, hfirst]
        rcases hperform : (machine .silent).perform c x with ⟨y, _ | why⟩
        · rw [hperform] at hy
          exact ih hy
        · by_cases hlast : k ≤ y.heard.length
          · simp [cutPerformed, firstHearing, hlast]
          · simp [cutPerformed, firstHearing, hlast]

theorem settle_cut (k : Nat) (x : Execution) :
    (x.cut k).settle (.atEvent k) = ((x.settle .silent).1.cut k, (x.settle .silent).2) := by
  have hcoins : (x.cut k).state = x.state := rfl
  unfold settle
  rw [hcoins]
  split
  · rfl
  · rw [emit_cut]

theorem conclude_cut (k : Nat) (defect? : Option ProgramError) (x : Execution)
    (halt : Option (Halt FailureReason)) :
    conclude (.atEvent k) defect? (x.cut k, halt) =
      ((conclude .silent defect? (x, halt)).1.cut k, (conclude .silent defect? (x, halt)).2) := by
  rcases halt with _ | _ | reason
  · cases defect? with
    | none => simp only [conclude, verdict, settle_cut]
    | some error => rfl
  · cases defect? <;> rfl
  · cases defect? <;> rfl

/-- A run that is asked to stop at event `k` ends at the first boundary with `k`
events heard, if there is one, and otherwise as if it had not been asked. -/
theorem run_cut (hx : x.stopped = false) (p : Program) :
    run (.atEvent k) p (x.cut k) =
      match firstHearing k (boundaries .silent p x) with
      | some y => (y.cut k, .ok .cancelled)
      | none => ((run .silent p x).1.cut k, (run .silent p x).2) := by
  rw [run_script, run_script, performAll_cut hx, ← boundaries_eq]
  cases firstHearing k (boundaries .silent p x) with
  | none => exact conclude_cut ..
  | some y => cases p.defect? <;> rfl

/-! ### Which events are heard when -/

theorem coinsUneaten_not_mem_resolution (r : Resolution) (actor : Nat) (enabled : Switches)
    (remaining : Nat) :
    .coinsUneaten remaining ∉ r.announcement actor ++ r.consequences actor enabled := by
  cases r with
  | turned turn facing => simp [Resolution.announcement, Resolution.consequences]
  | blocked stride source obstacle => simp [Resolution.announcement, Resolution.consequences]
  | moved move =>
      cases hstride : move.stride <;> cases hcoin : move.coin <;>
        simp [Resolution.announcement, Resolution.consequences, hstride, hcoin]

/-- The report of the coins that are left is not heard before the verdict. -/
theorem coinsUneaten_not_mem_boundaries {watcher : Watcher} {p : Program} (hx : x.heard = [])
    (hy : y ∈ boundaries watcher p x) (remaining : Nat) : .coinsUneaten remaining ∉ y.heard := by
  have hmachine : (machine watcher).Preserves fun z => .coinsUneaten remaining ∉ z.heard := by
    apply preserves_machine
    intro z index actor actor' world r c hz _ _
    rw [← List.mem_reverse, heard_resolved, List.mem_append, List.mem_reverse, not_or]
    exact ⟨hz, coinsUneaten_not_mem_resolution r actor.id _ remaining⟩
  apply hmachine.boundaries (passesReserved_machine watcher) _ p y hy
  simp [hx]

/-- The `k`-th event of a run, if it was heard by a boundary, is not the report of
the coins that are left. -/
theorem heard_by_boundary {watcher : Watcher} {p : Program} (hx : x.heard = [])
    (hy : y ∈ boundaries watcher p x) (hpos : 0 < k) (hk : k ≤ y.heard.length) :
    k ≤ (run watcher p x).1.heard.length ∧
      ∀ remaining, (run watcher p x).1.heard.reverse[k - 1]? ≠ some (.coinsUneaten remaining) := by
  have hsuffix := suffix_heard_run hy
  refine ⟨Nat.le_trans hk hsuffix.length_le, ?_⟩
  intro remaining hevent
  obtain ⟨rest, hrest⟩ := List.reverse_prefix.2 hsuffix
  have hlt : k - 1 < y.heard.reverse.length := by
    rw [List.length_reverse]
    omega
  rw [← hrest, List.getElem?_append_left hlt] at hevent
  apply coinsUneaten_not_mem_boundaries hx hy remaining
  exact List.mem_reverse.1 (List.mem_of_getElem? hevent)

/-- Any other event of a run is heard by some boundary. -/
theorem exists_boundary_hearing {watcher : Watcher} {p : Program}
    (hk : k ≤ (run watcher p x).1.heard.length)
    (hevent : ∀ remaining,
      (run watcher p x).1.heard.reverse[k - 1]? ≠ some (.coinsUneaten remaining)) :
    ∃ y ∈ boundaries watcher p x, k ≤ y.heard.length := by
  obtain ⟨y, hlast, hend⟩ := run_ends watcher p x
  refine ⟨y, List.mem_of_getLast? hlast, ?_⟩
  rcases hend with hend | ⟨remaining, hend⟩
  · rw [← hend]
    exact hk
  · have hheard : (run watcher p x).1.heard = .coinsUneaten remaining :: y.heard := by
      rw [hend]
      rfl
    apply Nat.le_of_not_lt
    intro hbeyond
    have hlen : k = y.heard.length + 1 := by
      rw [hheard, List.length_cons] at hk
      omega
    apply hevent remaining
    rw [hheard, List.reverse_cons, hlen]
    simp

/-- The first boundary with `k` events heard is the end of the command during
which event `k` was heard. -/
theorem firstHearing_boundaries {watcher : Watcher} {p : Program} (hx : x.heard.length < k)
    (h : firstHearing k (boundaries watcher p x) = some y) :
    ∃ i before, (boundaries watcher p x)[i]? = some before ∧
      (boundaries watcher p x)[i + 1]? = some y ∧
      before.heard.length < k ∧ k ≤ y.heard.length := by
  obtain ⟨hk, j, hj, hget, hfirst⟩ := List.find?_eq_some_iff_getElem.1 h
  have hy : k ≤ y.heard.length := by simpa using hk
  cases j with
  | zero =>
      have hstart : x = y := by simpa [boundaries_eq] using hget
      rw [hstart] at hx
      omega
  | succ i =>
      have hi : i < (boundaries watcher p x).length := by omega
      have hbefore := hfirst i (Nat.lt_succ_self i)
      refine ⟨i, (boundaries watcher p x)[i], List.getElem?_eq_getElem hi, ?_, ?_, hy⟩
      · rw [List.getElem?_eq_getElem hj, hget]
      · simpa using hbefore

end Execution

namespace Run

variable {run : Run} {k : Nat} {p : Program} {y : Execution}

/-- A run that has been asked to stop does nothing. -/
theorem execute_of_stopped (h : run.stopped = true) (p : Program) (watcher : Watcher) :
    run.execute p watcher = ⟨run, [], .ok .cancelled⟩ := by
  have hstopped : (Execution.machine watcher).stopped ⟨run.state, [], run.stopped⟩ = true := h
  rw [execute, Execution.run_script, Machine.performAll_of_stopped hstopped]
  cases p.defect? <;> rfl

/-- The commands of a run whose listener is silent, seen at their boundaries. -/
def silentBoundaries (run : Run) (p : Program) : List Execution :=
  Execution.boundaries .silent p ⟨run.state, [], run.stopped⟩

theorem cut_start (h : run.stopped = false) (hpos : 0 < k) :
    (⟨run.state, [], run.stopped⟩ : Execution).cut k = ⟨run.state, [], run.stopped⟩ := by
  have hk : decide (k ≤ 0) = false := by simpa using Nat.ne_of_gt hpos
  rw [h]
  exact congrArg (Execution.mk run.state []) hk

theorem execute_of_hearing (h : run.stopped = false) (hpos : 0 < k)
    (hy : Execution.firstHearing k (run.silentBoundaries p) = some y) :
    run.execute p (.atEvent k) =
      ⟨{ run with state := y.state, stopped := (y.cut k).stopped }, y.heard.reverse,
        .ok .cancelled⟩ := by
  have hrun := Execution.run_cut (k := k) (x := ⟨run.state, [], run.stopped⟩) h p
  rw [cut_start h hpos, ← silentBoundaries, hy] at hrun
  rw [execute, hrun]
  rfl

theorem execute_of_not_hearing (h : run.stopped = false) (hpos : 0 < k)
    (hnone : Execution.firstHearing k (run.silentBoundaries p) = none) :
    (run.execute p (.atEvent k)).result = (run.execute p .silent).result ∧
      (run.execute p (.atEvent k)).events = (run.execute p .silent).events ∧
      (run.execute p (.atEvent k)).run.state = (run.execute p .silent).run.state := by
  have hrun := Execution.run_cut (k := k) (x := ⟨run.state, [], run.stopped⟩) h p
  rw [cut_start h hpos, ← silentBoundaries, hnone] at hrun
  rw [execute, hrun]
  exact ⟨rfl, rfl, rfl⟩

/-- A stop request at event `k` ends a run with the command during which it is
made: the run is cancelled, whatever would have come of the command, and up to
there it is as if the request had not been made.  If there is no event `k`, or if
it reports the coins that are left, the request comes too late to change anything.
A run that has been asked to stop before it begins does nothing. -/
theorem execute_atEvent (run : Run) (p : Program) :
    (run.stopped = true → ∀ watcher, run.execute p watcher = ⟨run, [], .ok .cancelled⟩) ∧
    (run.stopped = false → ∀ k, 0 < k →
      let silent := run.execute p .silent
      let asked := run.execute p (.atEvent k)
      ((silent.events.length < k ∨
          ∃ remaining, silent.events[k - 1]? = some (.coinsUneaten remaining)) →
        asked.result = silent.result ∧ asked.events = silent.events ∧
          asked.run.state = silent.run.state) ∧
      ((k ≤ silent.events.length ∧
          ∀ remaining, silent.events[k - 1]? ≠ some (.coinsUneaten remaining)) →
        asked.result = .ok .cancelled ∧ asked.events <+: silent.events ∧
          ∃ i before after, (run.silentBoundaries p)[i]? = some before ∧
            (run.silentBoundaries p)[i + 1]? = some after ∧
            before.heard.length < k ∧ k ≤ after.heard.length ∧
            asked.events = after.heard.reverse ∧ asked.run.state = after.state)) := by
  refine ⟨fun h watcher => execute_of_stopped h p watcher, ?_⟩
  intro h k hpos silent asked
  have hlength : silent.events.length =
      (Execution.run .silent p ⟨run.state, [], run.stopped⟩).1.heard.length := List.length_reverse
  refine ⟨?_, ?_⟩
  · intro hlate
    apply execute_of_not_hearing h hpos
    rw [Execution.firstHearing, List.find?_eq_none]
    intro y hy hk
    obtain ⟨hlen, hevent⟩ := Execution.heard_by_boundary rfl hy hpos (of_decide_eq_true hk)
    rcases hlate with hshort | ⟨remaining, hcoins⟩
    · rw [hlength] at hshort
      exact Nat.not_lt.2 hlen hshort
    · exact hevent remaining hcoins
  · intro ⟨hlen, hevent⟩
    have hheard : ∃ y ∈ run.silentBoundaries p, k ≤ y.heard.length :=
      Execution.exists_boundary_hearing (hlength ▸ hlen) hevent
    cases hfirst : Execution.firstHearing k (run.silentBoundaries p) with
    | none =>
        obtain ⟨y, hy, hk⟩ := hheard
        rw [Execution.firstHearing, List.find?_eq_none] at hfirst
        exact absurd (decide_eq_true hk) (hfirst y hy)
    | some after =>
        have hasked : asked = _ := execute_of_hearing h hpos hfirst
        obtain ⟨i, before, hbefore, hafter, hlt, hle⟩ :=
          Execution.firstHearing_boundaries hpos hfirst
        have hprefix : after.heard.reverse <+: silent.events :=
          List.reverse_prefix.2 (Execution.suffix_heard_run (List.mem_of_getElem? hafter))
        rw [hasked]
        exact ⟨rfl, hprefix, i, before, after, hbefore, hafter, hlt, hle, rfl, rfl⟩

theorem execute_atEvent_corridor :
    let run := ofLevel .corridor
    let silent := run.execute .twoLoops .silent
    run.cancel.execute .twoLoops .silent = ⟨run.cancel, [], .ok .cancelled⟩ ∧
    silent.events = [.actorAdvanced 0 ⟨0, 0⟩ ⟨0, 1⟩, .coinCollected 0 ⟨0, 1⟩,
      .actorAdvanced 0 ⟨0, 1⟩ ⟨0, 2⟩, .coinsUneaten 1] ∧
    (run.execute .twoLoops (.atEvent 1)).result = .ok .cancelled ∧
    (∃ after ∈ run.silentBoundaries .twoLoops, 1 ≤ after.heard.length ∧
      (run.execute .twoLoops (.atEvent 1)).run.state = after.state) ∧
    (run.execute .twoLoops (.atEvent 4)).result = silent.result := by
  intro run silent
  have hevents : silent.events = [.actorAdvanced 0 ⟨0, 0⟩ ⟨0, 1⟩, .coinCollected 0 ⟨0, 1⟩,
      .actorAdvanced 0 ⟨0, 1⟩ ⟨0, 2⟩, .coinsUneaten 1] := by
    simp only [silent, execute, Execution.run_script]
    decide +kernel
  have hearly : 1 ≤ silent.events.length ∧
      ∀ remaining, silent.events[1 - 1]? ≠ some (.coinsUneaten remaining) := by simp [hevents]
  have hlate : silent.events.length < 4 ∨
      ∃ remaining, silent.events[4 - 1]? = some (.coinsUneaten remaining) := by simp [hevents]
  obtain ⟨hcancelled, _, i, before, after, _, hafter, _, hheard, _, hstate⟩ :=
    ((execute_atEvent run .twoLoops).2 rfl 1 (by decide)).2 hearly
  exact ⟨(execute_atEvent run.cancel .twoLoops).1 rfl .silent, hevents, hcancelled,
    ⟨after, List.mem_of_getElem? hafter, hheard, hstate⟩,
    (((execute_atEvent run .twoLoops).2 rfl 4 (by decide)).1 hlate).1⟩

end Run

end Beamwalk
