/-
Module: Beamwalk.Proofs.Run.Replay
Purpose: A run depends on its listener only through what he decides at the events that he hears,
  and one that is rolled back is as good as new.
Main exports: Watcher.Agree, Execution.performAll_congr, Execution.run_congr, Run.restore_after,
  Run.restore_replays
-/
import Beamwalk.Proofs.Run.Soundness

namespace Beamwalk

/-- Two listeners decide alike at every event of a run of which this is heard, the
latest event first. -/
def Watcher.Agree (watcher watcher' : Watcher) (heard : List RunEvent) : Prop :=
  ∀ past, past ≠ [] → past <:+ heard → watcher past = watcher' past

theorem Watcher.Agree.of_suffix {watcher watcher' : Watcher} {heard heard' : List RunEvent}
    (h : watcher.Agree watcher' heard) (hsuffix : heard' <:+ heard) :
    watcher.Agree watcher' heard' :=
  fun past hne hpast => h past hne (hpast.trans hsuffix)

namespace Execution

variable {watcher watcher' : Watcher} {c : Command} {x y : Execution}
  {halt : Option (Halt FailureReason)}

/-!
Each of the following says that two listeners make no difference if they agree on
all that is heard by the end.  What is heard on the way is a suffix of that.
-/

theorem emit_congr {event : RunEvent} (h : watcher.Agree watcher' (event :: x.heard)) :
    x.emit watcher event = x.emit watcher' event := by
  rw [emit, emit, h (event :: x.heard) (List.cons_ne_nil _ _) (List.suffix_refl _)]

theorem suffix_heard_emitAll (watcher : Watcher) (x : Execution) (events : List RunEvent) :
    x.heard <:+ (x.emitAll watcher events).heard := by
  rw [heard_emitAll]
  exact List.suffix_append _ _

theorem emitAll_congr {events : List RunEvent}
    (h : watcher.Agree watcher' (x.emitAll watcher' events).heard) :
    x.emitAll watcher events = x.emitAll watcher' events := by
  induction events generalizing x with
  | nil => rfl
  | cons event rest ih =>
      have hfirst := suffix_heard_emitAll watcher' (x.emit watcher' event) rest
      calc x.emitAll watcher (event :: rest)
          = (x.emit watcher event).emitAll watcher rest := rfl
        _ = (x.emit watcher' event).emitAll watcher rest := by rw [emit_congr (h.of_suffix hfirst)]
        _ = (x.emit watcher' event).emitAll watcher' rest := ih h

theorem resolved_congr {index : Nat} {actor actor' : Actor} {world : World} {r : Resolution}
    (h : watcher.Agree watcher' (x.resolved watcher' index actor actor' world r).heard) :
    x.resolved watcher index actor actor' world r =
      x.resolved watcher' index actor actor' world r := by
  let announced := x.emitAll watcher' (r.announcement actor.id)
  let changed := { announced with state := ⟨world, x.state.actors.set index actor'⟩ }
  have hgrows : announced.heard <:+ (x.resolved watcher' index actor actor' world r).heard :=
    suffix_heard_emitAll watcher' changed _
  have hannounced : x.emitAll watcher (r.announcement actor.id) = announced :=
    emitAll_congr (h.of_suffix hgrows)
  rw [resolved, resolved, hannounced]
  exact emitAll_congr h

theorem performFor_congr {index : Nat} (hperform : x.performFor watcher' c index = (y, halt))
    (h : watcher.Agree watcher' y.heard) : x.performFor watcher c index = (y, halt) := by
  cases hactor : x.state.actors[index]? with
  | none => simpa [performFor, hactor] using hperform
  | some actor =>
      cases hresolve : resolve x.state.world actor c with
      | none => simpa [performFor, hactor, hresolve] using hperform
      | some resolved =>
          obtain ⟨world, actor', r⟩ := resolved
          rw [performFor_resolved hactor hresolve] at hperform
          have hresolved : x.resolved watcher' index actor actor' world r = y :=
            congrArg Prod.fst hperform
          rw [performFor_resolved hactor hresolve, resolved_congr (hresolved ▸ h), hperform]

theorem performEach_congr {indices : List Nat}
    (hperform : performEach watcher' c indices x = (y, halt))
    (h : watcher.Agree watcher' y.heard) : performEach watcher c indices x = (y, halt) := by
  induction indices generalizing x with
  | nil => exact hperform
  | cons index rest ih =>
      rw [performEach] at hperform ⊢
      rcases hone : x.performFor watcher' c index with ⟨z, _ | why⟩
      · rw [hone] at hperform
        have hrest : performEach watcher' c rest z = (y, halt) := hperform
        have hz : z.heard <:+ y.heard := by
          have hgrows := suffix_heard_performEach watcher' c rest z
          rwa [hrest] at hgrows
        rw [performFor_congr hone (h.of_suffix hz)]
        exact ih hrest
      · rw [hone] at hperform
        cases hperform
        rw [performFor_congr hone h]

theorem performAll_congr {commands : List Command}
    (hperform : (machine watcher').performAll commands x = (y, halt))
    (h : watcher.Agree watcher' y.heard) :
    (machine watcher).performAll commands x = (y, halt) := by
  induction commands generalizing x with
  | nil => exact hperform
  | cons c rest ih =>
      cases hx : x.stopped with
      | true =>
          rw [Machine.performAll_of_stopped hx] at hperform ⊢
          exact hperform
      | false =>
          rw [Machine.performAll_cons hx] at hperform ⊢
          rcases hone : (machine watcher').perform c x with ⟨z, _ | why⟩
          · rw [hone] at hperform
            have hrest : (machine watcher').performAll rest z = (y, halt) := hperform
            have hz : z.heard <:+ y.heard := by
              have hgrows := suffix_heard_performAll watcher' rest z
              rwa [hrest] at hgrows
            have hfirst : (machine watcher).perform c x = (z, none) :=
              performEach_congr hone (h.of_suffix hz)
            rw [hfirst]
            exact ih hrest
          · rw [hone] at hperform
            cases hperform
            have hfirst : (machine watcher).perform c x = (y, some why) :=
              performEach_congr hone h
            rw [hfirst]

theorem settle_congr (h : watcher.Agree watcher' (x.settle watcher').1.heard) :
    x.settle watcher = x.settle watcher' := by
  unfold settle at h ⊢
  split at h
  · rfl
  · rw [emit_congr h]

theorem conclude_congr {defect? : Option ProgramError}
    {performed : Execution × Option (Halt FailureReason)}
    (h : watcher.Agree watcher' (conclude watcher' defect? performed).1.heard) :
    conclude watcher defect? performed = conclude watcher' defect? performed := by
  rcases performed with ⟨y, _ | _ | reason⟩
  · cases defect? with
    | none =>
        have hsettle : y.settle watcher = y.settle watcher' := settle_congr h
        simp only [conclude, verdict, hsettle]
    | some error => rfl
  · cases defect? <;> rfl
  · cases defect? <;> rfl

theorem run_congr {p : Program} (h : watcher.Agree watcher' (run watcher' p x).1.heard) :
    run watcher p x = run watcher' p x := by
  have hlast : ((machine watcher').performAll p.script x).1 ∈ boundaries watcher' p x :=
    List.mem_of_getLast? (getLast?_boundaries watcher' p x)
  have hperformed := performAll_congr rfl (h.of_suffix (suffix_heard_run hlast))
  rw [run_script] at h
  rw [run_script, run_script, hperformed]
  exact conclude_congr h

end Execution

namespace Run

/-- Whatever was done with a run, it can be rolled back to a fresh one. -/
theorem restore_after (level : Level) (history : List Operation) :
    (after level history).restore = ofLevel level := by
  have hsnapshot : (after level history).snapshot = RunState.ofLevel level :=
    ((sound_ofLevel level).operateAll history).snapshot
  rw [restore, hsnapshot]
  rfl

/-- Whatever was done with a run, rolling it back brings back the state in which the
actors spawned, leaves that state to roll back to, and withdraws a stop request.  What
is executed then comes to the same result, the same events and the same state as on a
fresh run, if the listeners decide alike at the events that they hear. -/
theorem restore_replays (level : Level) (history : List Operation) :
    let restored := (after level history).restore
    restored.state = RunState.ofLevel level ∧
    restored.snapshot = RunState.ofLevel level ∧
    restored.stopped = false ∧
    ∀ (p : Program) (watcher watcher' : Watcher),
      watcher.Agree watcher' (start p level watcher').events.reverse →
        restored.execute p watcher = start p level watcher' := by
  intro restored
  have hrestored : restored = ofLevel level := restore_after level history
  rw [hrestored]
  refine ⟨rfl, rfl, rfl, ?_⟩
  intro p watcher watcher' hagree
  have hheard : (start p level watcher').events.reverse =
      (Execution.run watcher' p ⟨(ofLevel level).state, [], (ofLevel level).stopped⟩).1.heard :=
    List.reverse_reverse _
  rw [hheard] at hagree
  rw [start, execute, execute, Execution.run_congr hagree]

theorem restore_replays_corridor :
    let restored := (after .corridor
      [.execute (.ofCommands [.advance, .jump, .jump]) .silent, .cancel]).restore
    let program := Program.ofCommands [.advance, .advance, .advance]
    let once : Watcher := fun heard => heard.length == 2
    let onward : Watcher := fun heard => 2 ≤ heard.length
    let fresh := start program .corridor onward
    once.Agree onward fresh.events.reverse ∧
    fresh.events = [.actorAdvanced 0 ⟨0, 0⟩ ⟨0, 1⟩, .coinCollected 0 ⟨0, 1⟩] ∧
    restored.execute program once = fresh := by
  intro restored program once onward fresh
  have hevents : fresh.events = [.actorAdvanced 0 ⟨0, 0⟩ ⟨0, 1⟩, .coinCollected 0 ⟨0, 1⟩] := by
    simp only [fresh, start, execute, Execution.run_script]
    decide +kernel
  have hagree : once.Agree onward fresh.events.reverse := by
    intro past _ hpast
    have hlength : past.length ≤ 2 := by simpa [hevents] using hpast.length_le
    rw [Bool.eq_iff_iff]
    simp only [once, onward, beq_iff_eq, decide_eq_true_eq]
    omega
  exact ⟨hagree, hevents, (restore_replays .corridor _).2.2.2 program once onward hagree⟩

end Run

end Beamwalk
