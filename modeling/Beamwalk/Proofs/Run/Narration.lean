/-
Module: Beamwalk.Proofs.Run.Narration
Purpose: A run is told passage by passage, one for every actor and every command, until a passage
  is fatal, and every event goes on from those before it.
Main exports: Passage, Recounts, Narrates, Execution.recounts_performEach,
  Execution.recounts_performAll, Execution.narrates_run, Run.execute_narrated
-/
import Beamwalk.Proofs.Program.Performed
import Beamwalk.Proofs.Run.Passage

namespace Beamwalk

/-- What is heard of an actor who performs a command. -/
structure Passage where
  command : Command
  actor : Nat
  events : List RunEvent

namespace Passage

/-- What a passage is about: who performs what. -/
def errand (q : Passage) : Command × Nat := (q.command, q.actor)

/-- Somebody is blocked or struck. -/
def isFatal (q : Passage) : Bool := q.events.any fun event => event.fault?.isSome

end Passage

/-- The passages tell of a run of all actors who perform some commands. -/
structure Narrates (actors : Nat) (commands : List Command) (passages : List Passage)
    (closing : List RunEvent) : Prop where
  /-- Every passage is worded as that of its command and its actor. -/
  worded : ∀ q ∈ passages, q.command.Tells q.actor q.events
  /-- For each command in turn, they tell of each actor in turn. -/
  in_order : passages.map Passage.errand <+: itinerary actors commands
  /-- No command is performed in silence. -/
  begun : ∀ i, i < commands.length → actors * i < passages.length
  /-- Nothing is left out unless a passage is fatal. -/
  complete : (∀ q ∈ passages, q.isFatal = false) →
    passages.map Passage.errand = itinerary actors commands
  /-- Nothing is told after a fatal passage. -/
  fatal_last : ∀ q ∈ passages.dropLast, q.isFatal = false
  /-- At most the coins that are left are reported at the end, where no passage is
  fatal. -/
  closing : closing = [] ∨
    (∀ q ∈ passages, q.isFatal = false) ∧ ∃ remaining, closing = [.coinsUneaten remaining]

/-- The errands are told of one after the other, up to the first passage that is
fatal. -/
inductive Recounts : List (Command × Nat) → List Passage → Prop where
  | nil : Recounts [] []
  | fatal {q : Passage} {rest : List (Command × Nat)} (worded : q.command.Tells q.actor q.events)
      (fatal : q.isFatal = true) : Recounts (q.errand :: rest) [q]
  | cons {q : Passage} {rest : List (Command × Nat)} {passages : List Passage}
      (worded : q.command.Tells q.actor q.events) (calm : q.isFatal = false)
      (recounts : Recounts rest passages) : Recounts (q.errand :: rest) (q :: passages)

namespace Recounts

variable {front back : List (Command × Nat)} {passages passages' : List Passage}

theorem worded (h : Recounts front passages) :
    ∀ q ∈ passages, q.command.Tells q.actor q.events := by
  induction h with
  | nil => simp
  | fatal worded fatal => simpa using worded
  | cons worded calm recounts ih => exact List.forall_mem_cons.2 ⟨worded, ih⟩

theorem in_order (h : Recounts front passages) : passages.map Passage.errand <+: front := by
  induction h with
  | nil => exact List.prefix_refl _
  | fatal worded fatal => exact List.cons_prefix_cons.2 ⟨rfl, List.nil_prefix⟩
  | cons worded calm recounts ih => exact List.cons_prefix_cons.2 ⟨rfl, ih⟩

theorem complete (h : Recounts front passages) (calm : ∀ q ∈ passages, q.isFatal = false) :
    passages.map Passage.errand = front := by
  induction h with
  | nil => rfl
  | fatal worded fatal =>
      rw [calm _ (List.mem_singleton_self _)] at fatal
      cases fatal
  | cons worded _ recounts ih =>
      rw [List.map_cons, ih fun q hq => calm q (List.mem_cons_of_mem _ hq)]

theorem fatal_last (h : Recounts front passages) :
    ∀ q ∈ passages.dropLast, q.isFatal = false := by
  induction h with
  | nil => simp
  | fatal worded fatal => simp
  | @cons q rest passages worded calm recounts ih =>
      cases passages with
      | nil => simp
      | cons q' rest' => exact List.forall_mem_cons.2 ⟨calm, ih⟩

/-- After passages that are not fatal the story goes on. -/
theorem append (h : Recounts front passages) (calm : ∀ q ∈ passages, q.isFatal = false)
    (h' : Recounts back passages') : Recounts (front ++ back) (passages ++ passages') := by
  induction h with
  | nil => exact h'
  | fatal worded fatal =>
      rw [calm _ (List.mem_singleton_self _)] at fatal
      cases fatal
  | cons worded calm' recounts ih =>
      exact .cons worded calm' (ih fun q hq => calm q (List.mem_cons_of_mem _ hq))

/-- After a fatal passage nothing more is told. -/
theorem append_fatal (h : Recounts front passages) (fatal : ∃ q ∈ passages, q.isFatal = true)
    (back : List (Command × Nat)) : Recounts (front ++ back) passages := by
  induction h with
  | nil => simp at fatal
  | fatal worded hfatal => exact .fatal worded hfatal
  | cons worded calm recounts ih =>
      apply Recounts.cons worded calm
      apply ih
      simpa [calm] using fatal

end Recounts

namespace Execution

variable {watcher : Watcher} {level : Level} {n : Nat} {c : Command} {x : Execution}
  {commands : List Command}

/-- A sound state with a given number of actors. -/
structure Staffed (level : Level) (n : Nat) (x : Execution) : Prop where
  sound : x.state.Sound level
  actors : x.state.actors.length = n

theorem Staffed.resolved {index : Nat} {actor actor' : Actor} {world : World} {r : Resolution}
    (h : x.Staffed level n) (hactor : x.state.actors[index]? = some actor)
    (hresolves : Resolves x.state.world actor c world actor' r) :
    (x.resolved watcher index actor actor' world r).Staffed level n where
  sound := by
    rw [state_resolved]
    exact h.sound.resolves hactor hresolves
  actors := by
    rw [state_resolved, List.length_set]
    exact h.actors

/-- A command that is no marker is told of in one passage when it is performed for one
actor, and the run goes on unless the passage is fatal. -/
theorem told_performFor (watcher : Watcher) (plain : c.isMarker = false)
    (acts : c.isReserved = false) (h : x.Staffed level n) {index : Nat} (hindex : index < n) :
    ∃ q : Passage, q.errand = (c, index) ∧ q.command.Tells q.actor q.events ∧
      (x.performFor watcher c index).1.heard.reverse = x.heard.reverse ++ q.events ∧
      (x.performFor watcher c index).2.isSome = q.isFatal ∧
      (x.performFor watcher c index).1.Staffed level n := by
  obtain ⟨actor, hactor⟩ : ∃ actor, x.state.actors[index]? = some actor :=
    ⟨_, List.getElem?_eq_getElem (h.actors ▸ hindex)⟩
  obtain ⟨⟨world, actor', r⟩, hresolve⟩ :=
    Option.isSome_iff_exists.1 (isSome_resolve plain acts x.state.world actor)
  have hresolves := resolves_of_resolve hresolve
  have hid : actor.id = index := h.sound.ids index actor hactor
  have hperform : x.performFor watcher c index = _ := performFor_resolved hactor hresolve
  refine ⟨⟨c, index, r.announcement index ++ r.consequences index world.hazards.enabled⟩, rfl,
    hid ▸ hresolves.tells world.hazards.enabled, ?_, ?_, ?_⟩
  · rw [hperform, heard_resolved, hid]
  · rw [hperform, Option.isSome_map, hid]
    exact (r.any_fault? index world.hazards.enabled).symm
  · rw [hperform]
    exact h.resolved hactor hresolves

/-- A command is told of actor by actor, up to the first fatal passage. -/
theorem recounts_performEach (watcher : Watcher) (plain : c.isMarker = false)
    (acts : c.isReserved = false) (h : x.Staffed level n) {indices : List Nat}
    (hindices : ∀ i ∈ indices, i < n) :
    ∃ passages, Recounts (indices.map (c, ·)) passages ∧
      (performEach watcher c indices x).1.heard.reverse =
        x.heard.reverse ++ passages.flatMap Passage.events ∧
      (performEach watcher c indices x).2.isSome = passages.any Passage.isFatal ∧
      (performEach watcher c indices x).1.Staffed level n := by
  induction indices generalizing x with
  | nil => exact ⟨[], .nil, by simp [performEach], rfl, h⟩
  | cons index rest ih =>
      obtain ⟨hindex, hrest⟩ := List.forall_mem_cons.1 hindices
      obtain ⟨q, herrand, hworded, hheard, hfatal, hstaffed⟩ :=
        told_performFor watcher plain acts h hindex
      rw [List.map_cons, ← herrand, performEach]
      rcases hperform : x.performFor watcher c index with ⟨y, _ | why⟩
      · rw [hperform] at hheard hfatal hstaffed
        obtain ⟨passages, hrecounts, hheard', hfatal', hstaffed'⟩ := ih hstaffed hrest
        refine ⟨q :: passages, .cons hworded hfatal.symm hrecounts, ?_, ?_, hstaffed'⟩
        · rw [hheard', hheard, List.flatMap_cons, List.append_assoc]
        · rw [hfatal', List.any_cons, ← hfatal]
          rfl
      · rw [hperform] at hheard hfatal hstaffed
        refine ⟨[q], .fatal hworded hfatal.symm, ?_, ?_, hstaffed⟩
        · simpa using hheard
        · simpa using hfatal

theorem recounts_perform (watcher : Watcher) (plain : c.isMarker = false)
    (acts : c.isReserved = false) (h : x.Staffed level n) :
    ∃ passages, Recounts ((List.range n).map (c, ·)) passages ∧
      ((machine watcher).perform c x).1.heard.reverse =
        x.heard.reverse ++ passages.flatMap Passage.events ∧
      ((machine watcher).perform c x).2.isSome = passages.any Passage.isFatal ∧
      ((machine watcher).perform c x).1.Staffed level n := by
  have hperform : (machine watcher).perform c x = performEach watcher c (List.range n) x := by
    rw [← h.actors]
    rfl
  rw [hperform]
  exact recounts_performEach watcher plain acts h fun i hi => List.mem_range.1 hi

/-- Commands are told of one after the other, as far as they are performed, and none
of them in silence. -/
theorem recounts_performAll (watcher : Watcher) (hpos : 0 < n)
    (hacts : ∀ c ∈ commands, c.isMarker = false ∧ c.isReserved = false)
    (h : x.Staffed level n) :
    ∃ passages, Recounts (itinerary n ((machine watcher).reached commands x)) passages ∧
      ((machine watcher).performAll commands x).1.heard.reverse =
        x.heard.reverse ++ passages.flatMap Passage.events ∧
      (∀ i, i < ((machine watcher).reached commands x).length → n * i < passages.length) ∧
      (((machine watcher).performAll commands x).2 = none →
        ∀ q ∈ passages, q.isFatal = false) := by
  induction commands generalizing x with
  | nil =>
      refine ⟨[], .nil, ?_, by simp [Machine.reached], by simp⟩
      cases hx : (machine watcher).stopped x with
      | true => simp [Machine.performAll_of_stopped hx]
      | false => simp [Machine.performAll_nil hx]
  | cons c rest ih =>
      cases hx : (machine watcher).stopped x with
      | true =>
          rw [Machine.reached_of_stopped hx, Machine.performAll_of_stopped hx]
          exact ⟨[], .nil, by simp, by simp, by simp⟩
      | false =>
          obtain ⟨⟨plain, acts⟩, hrest⟩ := List.forall_mem_cons.1 hacts
          obtain ⟨passages, hrecounts, hheard, hfatal, hstaffed⟩ :=
            recounts_perform watcher plain acts h
          rw [Machine.performAll_cons hx, Machine.reached_cons hx]
          rcases hperform : (machine watcher).perform c x with ⟨y, _ | why⟩
          · rw [hperform] at hheard hfatal hstaffed
            have hcalm : ∀ q ∈ passages, q.isFatal = false := by simpa using hfatal.symm
            have hlength : passages.length = n := by
              simpa using congrArg List.length (hrecounts.complete hcalm)
            obtain ⟨passages', hrecounts', hheard', hbegun, hend⟩ := ih hrest hstaffed
            refine ⟨passages ++ passages', hrecounts.append hcalm hrecounts', ?_, ?_, ?_⟩
            · rw [hheard', hheard, List.flatMap_append, List.append_assoc]
            · intro i hi
              rw [List.length_append, hlength]
              cases i with
              | zero => omega
              | succ i =>
                  have hbefore := hbegun i (Nat.lt_of_succ_lt_succ hi)
                  rw [Nat.mul_succ]
                  omega
            · intro hnone q hq
              rcases List.mem_append.1 hq with hq | hq
              · exact hcalm q hq
              · exact hend hnone q hq
          · rw [hperform] at hheard hfatal
            have hsome : ∃ q ∈ passages, q.isFatal = true := by simpa using hfatal.symm
            refine ⟨passages, ?_, hheard, ?_, by simp⟩
            · rw [itinerary_cons]
              exact hrecounts.append_fatal hsome _
            · intro i hi
              obtain ⟨q, hq, _⟩ := hsome
              have hzero : i = 0 := by simpa using hi
              rw [hzero]
              exact List.length_pos_of_mem hq

/-- The commands that are performed when a program is run, in order. -/
def performed (watcher : Watcher) (p : Program) (x : Execution) : List Command :=
  (machine watcher).performed p x

/-- A run is told of in passages, and only where none of them is fatal may the coins
that are left be reported in the end. -/
theorem narrates_run (watcher : Watcher) (hpos : 0 < n) (h : x.Staffed level n) (p : Program) :
    ∃ passages closing,
      (run watcher p x).1.heard.reverse =
        x.heard.reverse ++ (passages.flatMap Passage.events ++ closing) ∧
      Narrates n (performed watcher p x) passages closing := by
  obtain ⟨passages, hrecounts, hheard, hbegun, hcalm⟩ :=
    recounts_performAll watcher hpos (fun c hc => Program.mem_script hc) h
  rw [← Machine.performed_eq (passesReserved_machine watcher)] at hrecounts hbegun
  have hnarrates : ∀ closing, (closing = [] ∨ (∀ q ∈ passages, q.isFatal = false) ∧
      ∃ remaining, closing = [.coinsUneaten remaining]) →
      Narrates n (performed watcher p x) passages closing := fun closing hclosing =>
    ⟨hrecounts.worded, hrecounts.in_order, hbegun, hrecounts.complete, hrecounts.fatal_last,
      hclosing⟩
  have hquiet : ∀ y halt, (machine watcher).performAll p.script x = (y, halt) →
      ∃ passages closing,
        y.heard.reverse = x.heard.reverse ++ (passages.flatMap Passage.events ++ closing) ∧
        Narrates n (performed watcher p x) passages closing := by
    intro y halt hy
    rw [hy] at hheard
    exact ⟨passages, [], by rw [hheard, List.append_nil], hnarrates [] (.inl rfl)⟩
  have hends := ends_run watcher p x
  generalize run watcher p x = ended at hends
  cases hends with
  | solved y hy eaten => exact hquiet y none hy
  | uneaten y hy remaining =>
      rw [hy] at hheard hcalm
      refine ⟨passages, [.coinsUneaten y.state.world.coinsRemaining], ?_,
        hnarrates _ (.inr ⟨hcalm rfl, _, rfl⟩)⟩
      have hemit : (y.emit watcher (.coinsUneaten y.state.world.coinsRemaining)).heard.reverse =
          y.heard.reverse ++ [.coinsUneaten y.state.world.coinsRemaining] := List.reverse_cons
      rw [hemit, hheard, List.append_assoc]
  | malformed y hy error => exact hquiet y none hy
  | stopped y hy => exact hquiet y _ hy
  | failed y reason hy => exact hquiet y _ hy

/-- A run whose events go on from the state in which it began and lead to the state in
which it is. -/
theorem leads_resolved {start : RunState} {index : Nat} {actor actor' : Actor} {world : World}
    {r : Resolution} (hsound : x.state.Sound level)
    (h : start.account.Leads x.heard.reverse x.state.account)
    (hactor : x.state.actors[index]? = some actor)
    (hresolves : Resolves x.state.world actor c world actor' r) :
    start.account.Leads (x.resolved watcher index actor actor' world r).heard.reverse
      (x.resolved watcher index actor actor' world r).state.account := by
  have hid : actor.id = index := hsound.ids index actor hactor
  subst hid
  rw [heard_resolved, state_resolved]
  exact h.append (hresolves.leads hactor)

/-- Every event of a run goes on from those before it. -/
theorem leads_run {start : RunState} (hsound : x.state.Sound level)
    (h : start.account.Leads x.heard.reverse x.state.account) (p : Program) :
    start.account.Leads (run watcher p x).1.heard.reverse (run watcher p x).1.state.account := by
  have hrun : (run watcher p x).1.state.Sound level ∧
      start.account.Leads (run watcher p x).1.heard.reverse (run watcher p x).1.state.account := by
    apply preserves_run (I := fun y =>
      y.state.Sound level ∧ start.account.Leads y.heard.reverse y.state.account) _ _ ⟨hsound, h⟩
    · intro y index actor actor' world r c hy hactor hresolves
      refine ⟨?_, leads_resolved hy.1 hy.2 hactor hresolves⟩
      rw [state_resolved]
      exact hy.1.resolves hactor hresolves
    · intro y remaining hy
      have hemit : (y.emit watcher (.coinsUneaten remaining)).heard.reverse =
          y.heard.reverse ++ [.coinsUneaten remaining] := List.reverse_cons
      rw [hemit]
      exact ⟨hy.1, hy.2.append (Account.leads_singleton trivial)⟩
  exact hrun.2

end Execution

/-- There are as many actors as start markers. -/
theorem RunState.Sound.length_actors {level : Level} {state : RunState} (h : state.Sound level) :
    state.actors.length = level.cells.starts := by
  have hlength := congrArg List.length h.identity
  have hspawned := congrArg List.length (map_spawn (w := World.ofLevel level) level.starts_le)
  rw [List.length_map, List.length_map] at hlength
  rw [List.length_map, Grid.length_startMarkers] at hspawned
  exact hlength.trans hspawned

namespace Run

/-- The commands of a program are performed in their order, as far as the run gets.
What is heard of it are passages, one for every command that is performed and every
actor, until one of them is fatal; only the report of the coins that are left may
follow, where none is fatal.  Every event goes on from where the events before it
leave off. -/
theorem execute_narrated (level : Level) (history : List Operation) (p : Program)
    (watcher : Watcher) :
    let run := after level history
    let report := run.execute p watcher
    let commands := Execution.performed watcher p ⟨run.state, [], run.stopped⟩
    commands <+: p.script ∧
    (∃ passages closing, report.events = passages.flatMap Passage.events ++ closing ∧
      Narrates run.state.actors.length commands passages closing) ∧
    run.state.account.Continues report.events := by
  intro run report commands
  have hsound : run.state.Sound level := ((sound_ofLevel level).operateAll history).state
  have hpos : 0 < run.state.actors.length := by
    rw [hsound.length_actors]
    exact Nat.pos_of_ne_zero level.starts_ne_zero
  refine ⟨?_, ?_, ?_⟩
  · exact Machine.performed_prefix (Execution.passesReserved_machine watcher) p _
  · exact Execution.narrates_run watcher hpos ⟨hsound, rfl⟩ p
  · exact (Execution.leads_run hsound (Account.leads_nil _) p).continues

/-- The actor turns to the east and jumps over the source onto the button, whose beam strikes
him there.  He does not advance any more. -/
theorem execute_narrated_trap :
    let run := after .trap []
    let p : Program := .ofCommands [.turnRight, .jump, .advance]
    let events : List RunEvent := [.actorTurned 0 .right .east, .actorJumped 0 ⟨0, 0⟩ ⟨0, 2⟩,
      .actorStruck 0 ⟨0, 2⟩ .delayed, .hazardsToggled (.single .red) ⟨true, false, false⟩]
    (run.execute p .silent).events = events ∧
    (∃ passages closing, events = passages.flatMap Passage.events ++ closing ∧
      Narrates 1 [.turnRight, .jump] passages closing) ∧
    run.state.account.Continues events := by
  intro run p events
  have hevents : (run.execute p .silent).events = events := by
    simp only [run, after, List.foldl, execute, Execution.run_script]
    decide +kernel
  have hcommands : Execution.performed .silent p ⟨run.state, [], run.stopped⟩ =
      [.turnRight, .jump] := by
    rw [Execution.performed, Machine.performed_eq (Execution.passesReserved_machine _)]
    decide +kernel
  obtain ⟨_, hpassages, hcontinues⟩ := execute_narrated .trap [] p .silent
  change ∃ passages closing, (run.execute p .silent).events = _ ∧ Narrates 1
    (Execution.performed .silent p ⟨run.state, [], run.stopped⟩) passages closing at hpassages
  change run.state.account.Continues (run.execute p .silent).events at hcontinues
  rw [hevents, hcommands] at hpassages
  rw [hevents] at hcontinues
  exact ⟨hevents, hpassages, hcontinues⟩

end Run

end Beamwalk
