/-
Module: Beamwalk.Proofs.Run.Course
Purpose: What a run can do in one step, and what therefore holds all along a run and after any
  sequence of operations on it.
Main exports: Resolves, resolves_of_resolve, Execution.performFor_cases,
  Execution.preserves_machine, Execution.boundaries, Execution.run_ends, Execution.of_boundaries,
  Execution.suffix_heard_run, Execution.preserves_run, Run.Operation, Run.after
-/
import Beamwalk.Proofs.Program.Recording
import Beamwalk.Proofs.Run.Reckoning
import Beamwalk.Proofs.Run.Verdict

namespace Beamwalk

/-- What a command can come to for an actor: the world and the actor afterwards,
and the resolution. -/
inductive Resolves (w : World) (a : Actor) (c : Command) : World → Actor → Resolution → Prop where
  | turned (turn : Turn) (rotates : c.turn? = some turn) :
      Resolves w a c w { a with facing := turn.apply a.facing }
        (.turned turn (turn.apply a.facing))
  | offGrid (stride : Stride) (strides : c.stride? = some stride)
      (absent : ∀ target, a.pos.step a.facing stride.distance = some target →
        w.cell? target = none) :
      Resolves w a c w a (.blocked stride a.pos .offGrid)
  | solid (stride : Stride) (strides : c.stride? = some stride) (target : Pos) (kind : CellKind)
      (ahead : a.pos.step a.facing stride.distance = some target)
      (cell : w.cell? target = some kind) (solid : kind.occupiable = false) :
      Resolves w a c w a (.blocked stride a.pos (.solid target))
  | moved (stride : Stride) (strides : c.stride? = some stride) (target : Pos) (kind : CellKind)
      (ahead : a.pos.step a.facing stride.distance = some target)
      (cell : w.cell? target = some kind) (occupiable : kind.occupiable = true) :
      Resolves w a c (w.enter target).1 { a with pos := target }
        (.moved
          { stride := stride
            source := a.pos
            target := target
            coin := (w.enter target).2.coin
            toggled := (w.enter target).2.toggled
            strike := (w.enter target).2.strike })

section

variable {w w' : World} {a a' : Actor} {c : Command} {r : Resolution}

theorem resolves_travel {stride : Stride} (strides : c.stride? = some stride)
    (h : a.travel w stride = (w', a', r)) : Resolves w a c w' a' r := by
  unfold Actor.travel at h
  split at h
  · rename_i hnone
    cases h
    apply Resolves.offGrid stride strides
    intro target htarget
    simpa [htarget] using hnone
  · rename_i target kind hsome
    obtain ⟨ahead, cell⟩ : a.pos.step a.facing stride.distance = some target ∧
        w.cell? target = some kind := by
      simp only [Option.bind_eq_some_iff, Option.map_eq_some_iff, Prod.mk.injEq] at hsome
      obtain ⟨_, ahead, _, cell, rfl, rfl⟩ := hsome
      exact ⟨ahead, cell⟩
    split at h
    · rename_i occupiable
      cases h
      exact .moved stride strides target kind ahead cell occupiable
    · rename_i solid
      cases h
      exact .solid stride strides target kind ahead cell (by simpa using solid)

/-- A command that resolves to something comes to nothing else. -/
theorem resolves_of_resolve (h : resolve w a c = some (w', a', r)) : Resolves w a c w' a' r := by
  cases c with
  | turnLeft =>
      cases h
      exact .turned .left rfl
  | turnRight =>
      cases h
      exact .turned .right rfl
  | uTurn =>
      cases h
      exact .turned .around rfl
  | advance => exact resolves_travel rfl (Option.some.inj h)
  | jump => exact resolves_travel rfl (Option.some.inj h)
  | _ => cases h

/-- Nobody changes who he is. -/
theorem Resolves.identity (h : Resolves w a c w' a' r) : a'.id = a.id ∧ a'.color = a.color := by
  cases h with
  | turned => exact ⟨rfl, rfl⟩
  | offGrid => exact ⟨rfl, rfl⟩
  | solid => exact ⟨rfl, rfl⟩
  | moved => exact ⟨rfl, rfl⟩

end

namespace Execution

variable {watcher : Watcher} {c : Command} {x y : Execution} {I : Execution → Prop}

theorem heard_emitAll (x : Execution) (events : List RunEvent) :
    (x.emitAll watcher events).heard = events.reverse ++ x.heard := by
  induction events generalizing x with
  | nil => rfl
  | cons event rest ih =>
      calc ((x.emit watcher event).emitAll watcher rest).heard
          = rest.reverse ++ (event :: x.heard) := ih _
        _ = (event :: rest).reverse ++ x.heard := by simp

/-- What is heard of a resolution: its announcement, and then its consequences. -/
theorem heard_resolved (x : Execution) (index : Nat) (actor actor' : Actor) (world : World)
    (r : Resolution) :
    (x.resolved watcher index actor actor' world r).heard.reverse =
      x.heard.reverse ++
        (r.announcement actor.id ++ r.consequences actor.id world.hazards.enabled) := by
  simp [resolved, heard_emitAll]

/-- Performing a command for one actor does nothing, or it carries out what the
command comes to for him. -/
theorem performFor_cases (watcher : Watcher) (c : Command) (x : Execution) (index : Nat) :
    x.performFor watcher c index = (x, none) ∨
      ∃ actor actor' world r, x.state.actors[index]? = some actor ∧
        Resolves x.state.world actor c world actor' r ∧
        x.performFor watcher c index =
          (x.resolved watcher index actor actor' world r,
            (r.failure actor.id).map fun reason =>
              if (x.resolved watcher index actor actor' world r).stopped then .stopped
              else .failed reason) := by
  cases hactor : x.state.actors[index]? with
  | none =>
      apply Or.inl
      simp [performFor, hactor]
  | some actor =>
      cases hresolve : resolve x.state.world actor c with
      | none =>
          apply Or.inl
          simp [performFor, hactor, hresolve]
      | some resolved =>
          obtain ⟨world, actor', r⟩ := resolved
          exact .inr ⟨actor, actor', world, r, rfl, resolves_of_resolve hresolve,
            performFor_resolved hactor hresolve⟩

/-- What every resolution preserves, every command preserves. -/
theorem preserves_machine
    (h : ∀ x index actor actor' world r c, I x → x.state.actors[index]? = some actor →
      Resolves x.state.world actor c world actor' r →
      I (x.resolved watcher index actor actor' world r)) :
    (machine watcher).Preserves I := by
  have hfor : ∀ c x index, I x → I (x.performFor watcher c index).1 := by
    intro c x index hx
    rcases performFor_cases watcher c x index with
      hidle | ⟨actor, actor', world, r, hactor, hresolves, hperform⟩
    · rw [hidle]
      exact hx
    · rw [hperform]
      exact h x index actor actor' world r c hx hactor hresolves
  have heach : ∀ c indices x, I x → I (performEach watcher c indices x).1 := by
    intro c indices
    induction indices with
    | nil => exact fun x hx => hx
    | cons index rest ih =>
        intro x hx
        have hone := hfor c x index hx
        rw [performEach]
        rcases hperform : x.performFor watcher c index with ⟨y, _ | why⟩
        · rw [hperform] at hone
          exact ih y hone
        · rw [hperform] at hone
          exact hone
  intro c x hx
  exact heach c _ x hx

/-- The run in progress at the boundaries of the commands of a program: at its
start, and after each command, the one that ends the run included. -/
def boundaries (watcher : Watcher) (p : Program) (x : Execution) : List Execution :=
  (machine watcher).boundaries p x

theorem boundaries_eq (watcher : Watcher) (p : Program) (x : Execution) :
    boundaries watcher p x = x :: (machine watcher).visits p.script x :=
  Machine.boundaries_eq (passesReserved_machine watcher) p x

/-- The last boundary is where the script ends. -/
theorem getLast?_boundaries (watcher : Watcher) (p : Program) (x : Execution) :
    (boundaries watcher p x).getLast? = some ((machine watcher).performAll p.script x).1 := by
  rw [boundaries_eq, List.getLast?_cons, ← List.getLastD_eq_getLast?, Machine.getLastD_visits]

theorem settle_ends (watcher : Watcher) (x : Execution) :
    (x.settle watcher).1 = x ∨
      ∃ remaining, (x.settle watcher).1 = x.emit watcher (.coinsUneaten remaining) := by
  unfold settle
  split
  · exact .inl rfl
  · exact .inr ⟨_, rfl⟩

/-- A run ends at the last boundary, but for the report of the coins that are
left. -/
theorem run_ends (watcher : Watcher) (p : Program) (x : Execution) :
    ∃ y, (boundaries watcher p x).getLast? = some y ∧
      ((run watcher p x).1 = y ∨
        ∃ remaining, (run watcher p x).1 = y.emit watcher (.coinsUneaten remaining)) := by
  refine ⟨_, getLast?_boundaries watcher p x, ?_⟩
  rw [run_script]
  rcases (machine watcher).performAll p.script x with ⟨y, _ | _ | reason⟩
  · cases p.defect? with
    | none => exact settle_ends watcher y
    | some error => exact .inl rfl
  · exact .inl (by cases p.defect? <;> rfl)
  · exact .inl (by cases p.defect? <;> rfl)

/-- What holds at every boundary and outlives the report of the coins that are left
holds at the end of a run. -/
theorem of_boundaries {p : Program} (hboundaries : ∀ y ∈ boundaries watcher p x, I y)
    (hreport : ∀ y remaining, I y → I (y.emit watcher (.coinsUneaten remaining))) :
    I (run watcher p x).1 := by
  obtain ⟨y, hlast, hend⟩ := run_ends watcher p x
  have hy : I y := hboundaries y (List.mem_of_getLast? hlast)
  rcases hend with hend | ⟨remaining, hend⟩
  · rw [hend]
    exact hy
  · rw [hend]
    exact hreport y remaining hy

/-- Performing a command for one actor takes nothing back that was heard. -/
theorem suffix_heard_performFor (watcher : Watcher) (c : Command) (x : Execution) (index : Nat) :
    x.heard <:+ (x.performFor watcher c index).1.heard := by
  rcases performFor_cases watcher c x index with
    hidle | ⟨actor, actor', world, r, _, _, hperform⟩
  · simp [hidle]
  · rw [hperform, ← List.reverse_prefix, heard_resolved]
    exact List.prefix_append _ _

theorem suffix_heard_performEach (watcher : Watcher) (c : Command) (indices : List Nat)
    (x : Execution) : x.heard <:+ (performEach watcher c indices x).1.heard := by
  induction indices generalizing x with
  | nil => exact List.suffix_refl _
  | cons index rest ih =>
      have hone := suffix_heard_performFor watcher c x index
      rw [performEach]
      rcases hperform : x.performFor watcher c index with ⟨y, _ | why⟩
      · rw [hperform] at hone
        exact hone.trans (ih y)
      · rw [hperform] at hone
        exact hone

theorem suffix_heard_performAll (watcher : Watcher) (commands : List Command) (x : Execution) :
    x.heard <:+ ((machine watcher).performAll commands x).1.heard := by
  have hkept : (machine watcher).Preserves fun z => x.heard <:+ z.heard :=
    fun c z hz => hz.trans (suffix_heard_performEach watcher c _ z)
  exact hkept.performAll (List.suffix_refl _)

/-- What was heard at a boundary was heard first of all that is heard. -/
theorem suffix_heard_run {p : Program} (hx : y ∈ boundaries watcher p x) :
    y.heard <:+ (run watcher p x).1.heard := by
  have hend : y.heard <:+ ((machine watcher).performAll p.script x).1.heard := by
    rw [boundaries_eq] at hx
    rcases List.mem_cons.1 hx with rfl | hvisited
    · exact suffix_heard_performAll watcher p.script y
    · exact Machine.suffix_of_mem_visits
        (fun c z => suffix_heard_performEach watcher c _ z) hvisited
  obtain ⟨last, hlast, hrun⟩ := run_ends watcher p x
  rw [getLast?_boundaries, Option.some.injEq] at hlast
  rw [hlast] at hend
  rcases hrun with hrun | ⟨remaining, hrun⟩
  · rw [hrun]
    exact hend
  · rw [hrun]
    exact hend.trans (List.suffix_cons _ _)

/-- What every resolution preserves and outlives the report of the coins that are left
holds at the end of a run. -/
theorem preserves_run
    (hresolved : ∀ y index actor actor' world r c, I y → y.state.actors[index]? = some actor →
      Resolves y.state.world actor c world actor' r →
      I (y.resolved watcher index actor actor' world r))
    (hreport : ∀ y remaining, I y → I (y.emit watcher (.coinsUneaten remaining))) (hx : I x)
    (p : Program) : I (run watcher p x).1 :=
  of_boundaries
    ((preserves_machine hresolved).boundaries (passesReserved_machine watcher) hx p) hreport

/-- A property of the state that every resolution preserves holds at the end of a
run. -/
theorem state_of_preserves {J : RunState → Prop}
    (h : ∀ state index actor actor' world r c, J state → state.actors[index]? = some actor →
      Resolves state.world actor c world actor' r → J ⟨world, state.actors.set index actor'⟩)
    (hx : J x.state) (p : Program) : J (run watcher p x).1.state := by
  apply preserves_run (I := fun y => J y.state) _ _ hx
  · intro y index actor actor' world r c hy hactor hresolves
    rw [state_resolved]
    exact h y.state index actor actor' world r c hy hactor hresolves
  · exact fun y remaining hy => hy

end Execution

namespace Run

/-- What can be done with a run. -/
inductive Operation where
  | execute (program : Program) (watcher : Watcher)
  | restore
  | cancel
  | reset

/-- The run after an operation. -/
def operate (run : Run) : Operation → Run
  | .execute program watcher => (run.execute program watcher).run
  | .restore => run.restore
  | .cancel => run.cancel
  | .reset => run.reset

/-- The run of a level after some operations, the first one first. -/
def after (level : Level) (history : List Operation) : Run := history.foldl operate (.ofLevel level)

end Run

end Beamwalk
