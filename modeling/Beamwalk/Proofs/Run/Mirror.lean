/-
Module: Beamwalk.Proofs.Run.Mirror
Purpose: A board that follows a run by its events shows the state of the run.
Main exports: Board.shown, RunState.retold, RunState.Agrees, RunState.retold_resolution,
  Execution.Mirrors, Run.board_mirrors
-/
import Beamwalk.Board
import Beamwalk.Proofs.Run.Soundness

namespace Beamwalk

/-!
A board learns of a move from its announcement, before the move takes effect, and
of what the move did to the world from the reports that come afterwards.  So it is
ahead of the run in between.  Once everything about a resolution has been heard, it
shows what the run has come to.
-/

namespace Board

variable {b b' : Board}

/-- The state that a board shows. -/
def shown (b : Board) : RunState := ⟨b.world, b.actors⟩

/-- Where actors were struck makes no difference to what else a board shows. -/
theorem shown_apply (h : b.shown = b'.shown) (event : RunEvent) :
    (b.apply event).shown = (b'.apply event).shown := by
  obtain ⟨world, actors, struck⟩ := b
  obtain ⟨world', actors', struck'⟩ := b'
  cases h
  cases event <;> rfl

theorem shown_replay (h : b.shown = b'.shown) (events : List RunEvent) :
    (b.replay events).shown = (b'.replay events).shown := by
  induction events generalizing b b' with
  | nil => exact h
  | cons event rest ih => exact ih (shown_apply h event)

end Board

namespace RunState

variable {state : RunState} {world : World} {actors : List Actor} {a a' : Actor} {c : Command}
  {r : Resolution} {events front back : List RunEvent}

/-- What a board of the state shows after some events. -/
def retold (state : RunState) (events : List RunEvent) : RunState :=
  ((Board.ofState state).replay events).shown

theorem retold_append (state : RunState) (front back : List RunEvent) :
    state.retold (front ++ back) = (state.retold front).retold back := by
  have hshown : ((Board.ofState state).replay front).shown =
      (Board.ofState (state.retold front)).shown := rfl
  rw [retold, Board.replay, List.foldl_append]
  exact Board.shown_replay hshown back

/-- What a board of the state takes in about toggles, it finds confirmed. -/
def Agrees (state : RunState) (events : List RunEvent) : Prop :=
  ∀ front groups enabled, front ++ [.hazardsToggled groups enabled] <+: events →
    (state.retold (front ++ [.hazardsToggled groups enabled])).world.hazards.enabled = enabled

/-- The events do not speak of toggles. -/
def Untoggled (events : List RunEvent) : Prop :=
  ∀ groups enabled, .hazardsToggled groups enabled ∉ events

theorem agrees_of_untoggled (h : Untoggled events) : state.Agrees events := by
  intro front groups enabled hwithin
  have hmem : .hazardsToggled groups enabled ∈ front ++ [.hazardsToggled groups enabled] := by simp
  exact absurd (hwithin.subset hmem) (h groups enabled)

theorem Agrees.append (hfront : state.Agrees front) (hback : (state.retold front).Agrees back) :
    state.Agrees (front ++ back) := by
  intro start groups enabled hprefix
  rcases List.prefix_or_prefix_of_prefix hprefix (List.prefix_append front back) with
    hwithin | hbeyond
  · exact hfront start groups enabled hwithin
  · rcases List.prefix_concat_iff.1 hbeyond with hwhole | ⟨rest, rfl⟩
    · exact hfront start groups enabled (hwhole ▸ List.prefix_refl _)
    · rw [List.append_assoc] at hprefix ⊢
      rw [retold_append]
      exact hback rest groups enabled ((List.prefix_append_right_inj front).1 hprefix)

/-- An event that ends the story may speak of a toggle if it has it right. -/
theorem Agrees.snoc {event : RunEvent} (h : state.Agrees front)
    (hevent : ∀ groups enabled, event = .hazardsToggled groups enabled →
      (state.retold (front ++ [event])).world.hazards.enabled = enabled) :
    state.Agrees (front ++ [event]) := by
  intro start groups enabled hprefix
  rcases List.prefix_concat_iff.1 hprefix with hwhole | hwithin
  · rw [hwhole]
    apply hevent groups enabled
    simpa using (congrArg List.getLast? hwhole).symm
  · exact h start groups enabled hwithin

/-! ### What is told of one resolution -/

/-- The announcement of a move moves the actor and does nothing to the world. -/
theorem retold_announcement {move : Move} (hactor : actors[a.id]? = some a) :
    RunState.retold ⟨world, actors⟩ (Resolution.announcement a.id (.moved move)) =
      ⟨world, actors.set a.id { a with pos := move.target }⟩ := by
  have hmodify : actors.modify a.id (fun b => { b with pos := move.target }) =
      actors.set a.id { a with pos := move.target } := by
    rw [List.modify_eq_set_getElem?, hactor]
    rfl
  rw [← hmodify]
  obtain ⟨stride, source, target, coin, toggled, strike⟩ := move
  cases stride <;> cases strike <;> rfl

/-- The reports about a landing do to the world what the landing did. -/
theorem retold_consequences {p : Pos} {move : Move} (hcoin : move.coin = (world.enter p).2.coin)
    (htoggled : move.toggled = (world.enter p).2.toggled) (htarget : move.target = p)
    (actor : Nat) (enabled : Switches) :
    RunState.retold ⟨world, actors⟩ (Resolution.consequences actor enabled (.moved move)) =
      ⟨(world.enter p).1, actors⟩ := by
  simp only [Resolution.consequences, hcoin, htoggled, htarget]
  cases hcell : world.cell? p with
  | none => simp [World.enter, hcell, retold, Board.replay, Board.shown, Board.ofState]
  | some kind =>
      cases kind <;>
        simp [World.enter, hcell, retold, Board.replay, Board.shown, Board.ofState, Board.apply]

/-- The events of a resolution tell what it did. -/
theorem retold_resolution (hactor : state.actors[a.id]? = some a)
    (h : Resolves state.world a c world a' r) :
    state.retold (r.announcement a.id ++ r.consequences a.id world.hazards.enabled) =
      ⟨world, state.actors.set a.id a'⟩ := by
  obtain ⟨w, actors⟩ := state
  have hsame : actors.set a.id a = actors := by
    obtain ⟨hlt, hget⟩ := List.getElem?_eq_some_iff.1 hactor
    have hset := List.set_getElem_self hlt
    rwa [hget] at hset
  cases h with
  | turned turn rotates =>
      have hmodify : actors.modify a.id (fun b => { b with facing := turn.apply a.facing }) =
          actors.set a.id { a with facing := turn.apply a.facing } := by
        rw [List.modify_eq_set_getElem?, hactor]
        rfl
      rw [← hmodify]
      rfl
  | offGrid stride strides absent =>
      rw [hsame]
      rfl
  | solid stride strides target kind ahead cell solid =>
      rw [hsame]
      rfl
  | moved stride strides target kind ahead cell occupiable =>
      rw [retold_append, retold_announcement hactor]
      exact retold_consequences rfl rfl rfl a.id _

theorem untoggled_announcement (r : Resolution) (actor : Nat) :
    Untoggled (r.announcement actor) := by
  intro groups enabled
  cases r with
  | turned turn facing => simp [Resolution.announcement]
  | blocked stride source obstacle => simp [Resolution.announcement]
  | moved move => cases hstride : move.stride <;> simp [Resolution.announcement, hstride]

/-- A resolution tells of a toggle at its end, when the toggle has taken place. -/
theorem agrees_resolution {actor : Nat} {enabled : Switches}
    (h : (state.retold
        (r.announcement actor ++ r.consequences actor enabled)).world.hazards.enabled = enabled) :
    state.Agrees (r.announcement actor ++ r.consequences actor enabled) := by
  have hannounced := untoggled_announcement r actor
  cases r with
  | turned turn facing => exact agrees_of_untoggled hannounced
  | blocked stride source obstacle => exact agrees_of_untoggled hannounced
  | moved move =>
      have hquiet : Untoggled (Resolution.announcement actor (.moved move) ++
          if move.coin then [.coinCollected actor move.target] else []) := by
        intro groups enabled hmem
        rcases List.mem_append.1 hmem with hmem | hmem
        · exact hannounced groups enabled hmem
        · split at hmem <;> simp at hmem
      rw [Resolution.consequences, ← List.append_assoc] at h ⊢
      cases htoggled : move.toggled with
      | none =>
          rw [Option.map_none, Option.toList_none, List.append_nil]
          exact agrees_of_untoggled hquiet
      | some groups =>
          rw [htoggled] at h
          apply (agrees_of_untoggled hquiet).snoc
          intro groups' enabled' heq
          cases heq
          exact h

end RunState

namespace Execution

variable {watcher : Watcher} {start : RunState} {x : Execution}

/-- A board of the state in which the run began that has taken in all events so
far shows the run as it is now, and it found the reports of toggles confirmed. -/
structure Mirrors (start : RunState) (x : Execution) : Prop where
  shown : start.retold x.heard.reverse = x.state
  agrees : start.Agrees x.heard.reverse

theorem Mirrors.resolved {index : Nat} {actor actor' : Actor} {world : World} {c : Command}
    {r : Resolution} (h : x.Mirrors start) (hactor : x.state.actors[index]? = some actor)
    (hid : actor.id = index) (hresolves : Resolves x.state.world actor c world actor' r) :
    (x.resolved watcher index actor actor' world r).Mirrors start := by
  subst hid
  have htold := RunState.retold_resolution hactor hresolves
  refine ⟨?_, ?_⟩
  · rw [heard_resolved, state_resolved, RunState.retold_append, h.shown, htold]
  · rw [heard_resolved]
    apply h.agrees.append
    rw [h.shown]
    apply RunState.agrees_resolution
    rw [htold]

/-- The report of the coins that are left changes nothing on a board. -/
theorem Mirrors.emit_coinsUneaten (h : x.Mirrors start) (remaining : Nat) :
    (x.emit watcher (.coinsUneaten remaining)).Mirrors start := by
  have hheard : (x.emit watcher (.coinsUneaten remaining)).heard.reverse =
      x.heard.reverse ++ [.coinsUneaten remaining] := List.reverse_cons
  refine ⟨?_, ?_⟩
  · rw [hheard, RunState.retold_append, h.shown]
    rfl
  · rw [hheard]
    apply h.agrees.snoc
    intro groups enabled heq
    cases heq

variable {level : Level}

/-- A run that begins in a sound state is mirrored at every boundary. -/
theorem mirrors_boundaries (hx : x.state.Sound level) (h : x.Mirrors start) (p : Program) :
    ∀ y ∈ boundaries watcher p x, y.Mirrors start := by
  have hmachine : (machine watcher).Preserves fun y => y.state.Sound level ∧ y.Mirrors start := by
    apply preserves_machine
    intro y index actor actor' world r c hy hactor hresolves
    refine ⟨?_, hy.2.resolved hactor (hy.1.ids index actor hactor) hresolves⟩
    rw [state_resolved]
    exact hy.1.resolves hactor hresolves
  intro y hy
  exact (hmachine.boundaries (passesReserved_machine watcher) ⟨hx, h⟩ p y hy).2

theorem mirrors_run (hx : x.state.Sound level) (h : x.Mirrors start) (p : Program) :
    (run watcher p x).1.Mirrors start := by
  apply of_boundaries (mirrors_boundaries hx h p)
  intro y remaining hy
  exact hy.emit_coinsUneaten remaining

end Execution

/-- A doorway: an actor, the button that he passes over, and a coin behind it. -/
def Level.doorway : Level where
  name := none
  cells := .ofRows [[.start .east, .button (.single .red), .coin]] (by decide)
  enabled := .allOff
  budgets := {}
  width_ne_zero := by decide
  height_ne_zero := by decide
  starts_ne_zero := by decide
  starts_le := by decide

/-- One step on, and the same step back. -/
def Program.thereAndBack : Program := .ofCommands [.advance, .uTurn, .advance]

namespace Run

/-- The doorway with the actor on the button. -/
def onDoorstep : Run := after .doorway [.execute (.ofCommands [.advance]) .silent]

/-- A board that is set up before an execution and takes in its events in order
shows the state of the run at every boundary and in the end, whatever the program
and the listener, and after every report of a toggle it has those groups on that
the report says. -/
theorem board_mirrors (level : Level) (history : List Operation) (p : Program)
    (watcher : Watcher) :
    let run := after level history
    let board := Board.ofState run.state
    let report := run.execute p watcher
    (board.replay report.events).shown = report.run.state ∧
    (∀ x ∈ Execution.boundaries watcher p ⟨run.state, [], run.stopped⟩,
      x.heard.reverse <+: report.events ∧ (board.replay x.heard.reverse).shown = x.state) ∧
    ∀ front groups enabled, front ++ [.hazardsToggled groups enabled] <+: report.events →
      (board.replay (front ++ [.hazardsToggled groups enabled])).world.hazards.enabled =
        enabled := by
  intro run board report
  have hsound : run.state.Sound level := ((sound_ofLevel level).operateAll history).state
  have hstart : (⟨run.state, [], run.stopped⟩ : Execution).Mirrors run.state :=
    ⟨rfl, RunState.agrees_of_untoggled (by simp [RunState.Untoggled])⟩
  have hend : ((Execution.run watcher p ⟨run.state, [], run.stopped⟩).1).Mirrors run.state :=
    Execution.mirrors_run hsound hstart p
  refine ⟨hend.shown, ?_, hend.agrees⟩
  intro x hx
  refine ⟨List.reverse_prefix.2 (Execution.suffix_heard_run hx), ?_⟩
  exact (Execution.mirrors_boundaries hsound hstart p x hx).shown

theorem board_mirrors_onDoorstep :
    let board := Board.ofState onDoorstep.state
    let report := onDoorstep.execute .thereAndBack .silent
    let there : List RunEvent := [.actorAdvanced 0 ⟨0, 1⟩ ⟨0, 2⟩, .coinCollected 0 ⟨0, 2⟩]
    let back : List RunEvent := [.actorTurned 0 .around .west, .actorAdvanced 0 ⟨0, 2⟩ ⟨0, 1⟩]
    (board.replay report.events).shown = report.run.state ∧
    (∃ x ∈ Execution.boundaries .silent .thereAndBack ⟨onDoorstep.state, [], onDoorstep.stopped⟩,
      x.heard.reverse = there ∧ (board.replay there).shown = x.state) ∧
    (board.replay ((there ++ back) ++
      [.hazardsToggled (.single .red) .allOff])).world.hazards.enabled = .allOff := by
  intro board report there back
  obtain ⟨hend, hboundaries, htoggles⟩ :=
    board_mirrors .doorway [.execute (.ofCommands [.advance]) .silent] .thereAndBack .silent
  have hevents : report.events = (there ++ back) ++ [.hazardsToggled (.single .red) .allOff] := by
    simp only [report, onDoorstep, after, List.foldl, operate, execute, Execution.run_script]
    decide +kernel
  have hboundary : ∃ x ∈ Execution.boundaries .silent .thereAndBack
      ⟨onDoorstep.state, [], onDoorstep.stopped⟩, x.heard.reverse = there := by
    rw [Execution.boundaries_eq]
    simp only [onDoorstep, after, List.foldl, operate, execute, Execution.run_script]
    exact ⟨_, .tail _ (.head _), by decide +kernel⟩
  obtain ⟨x, hx, hthere⟩ := hboundary
  exact ⟨hend, ⟨x, hx, hthere, hthere ▸ (hboundaries x hx).2⟩,
    htoggles _ _ _ (hevents ▸ List.prefix_refl _)⟩

end Run

end Beamwalk
