/-
Module: Beamwalk.Proofs.Run.Soundness
Purpose: What holds of the state of a run whatever was done with the run.
Main exports: World.Sound, World.Stands, RunState.Sound, RunState.sound_ofLevel,
  RunState.Sound.resolves, Run.sound_after
-/
import Beamwalk.Proofs.Hazard.Precedence
import Beamwalk.Proofs.Level.Landing
import Beamwalk.Proofs.Level.Spawn
import Beamwalk.Proofs.Run.Course

namespace Beamwalk

/-- A cell that no run changes: a hazard source or a button. -/
def CellKind.isFixture : CellKind → Bool
  | .horizontalSource _ | .verticalSource _ | .button _ => true
  | _ => false

/-- A world that has the fixtures of a level and no start markers, and whose field
is the one that follows from its cells as they are now. -/
structure World.Sound (level : Level) (w : World) : Prop where
  width : w.cells.width = level.cells.width
  height : w.cells.height = level.cells.height
  fixtures : ∀ p kind, kind.isFixture = true →
    (w.cells.get? p = some kind ↔ level.cells.get? p = some kind)
  no_start : ∀ p facing, w.cells.get? p ≠ some (.start facing)
  hazards : w.hazards.Coherent w.cells

/-- The position is on the grid, and its cell is floor or a button. -/
def World.Stands (w : World) (p : Pos) : Prop :=
  w.cells.get? p = some .empty ∨ ∃ groups, w.cells.get? p = some (.button groups)

/-- What makes an actor known. -/
def Actor.identity (a : Actor) : Nat × ActorColor := (a.id, a.color)

/-- A state that a run of a level can be in. -/
structure RunState.Sound (level : Level) (state : RunState) : Prop where
  world : state.world.Sound level
  /-- The actors are those that were spawned. -/
  identity : state.actors.map Actor.identity = (RunState.ofLevel level).actors.map Actor.identity
  ids : ∀ (i : Nat) (a : Actor), state.actors[i]? = some a → a.id = i
  stands : ∀ a ∈ state.actors, state.world.Stands a.pos

namespace World

variable {level : Level} {w : World} {p q : Pos}

/-- Eating a coin and clearing a start marker leave the beams alone. -/
theorem coherent_of_map {cells cells' : Grid CellKind} {f : Pos → CellKind → CellKind}
    {h : HazardState} (hcoherent : h.Coherent cells) (hwidth : cells'.width = cells.width)
    (hheight : cells'.height = cells.height)
    (hget : ∀ p, cells'.get? p = (cells.get? p).map (f p))
    (hf : ∀ group p kind, Field.directions group (f p kind) = Field.directions group kind) :
    h.Coherent cells' where
  order := hcoherent.order
  field := by rw [hcoherent.field, Field.derive_map hwidth hheight hget hf]

theorem coherent_enter (h : w.hazards.Coherent w.cells) (p : Pos) :
    (w.enter p).1.hazards.Coherent (w.enter p).1.cells := by
  have hbefore : (w.enter p).1.hazards.Coherent w.cells := by
    rw [hazards_enter]
    split
    · exact .toggle h.order.perm _ _
    · exact h
  apply coherent_of_map hbefore (width_enter w p) (height_enter w p) (get?_enter w p)
  intro group q kind
  split
  · next hcoin =>
      rw [hcoin.2]
      rfl
  · rfl

/-- Landing turns nothing but a coin into something else. -/
theorem get?_enter_of_ne {kind : CellKind} (h : w.cells.get? q = some kind)
    (hkind : kind ≠ .coin) : (w.enter p).1.cells.get? q = some kind := by
  rw [get?_enter, h, Option.map_some, if_neg fun hcoin => hkind hcoin.2]

/-- Landing puts nothing on the grid but floor. -/
theorem get?_of_get?_enter {kind : CellKind} (h : (w.enter p).1.cells.get? q = some kind)
    (hkind : kind ≠ .empty) : w.cells.get? q = some kind := by
  rw [get?_enter] at h
  obtain ⟨before, hbefore, heq⟩ := Option.map_eq_some_iff.1 h
  split at heq
  · exact absurd heq.symm hkind
  · rw [hbefore, heq]

theorem Sound.enter (h : w.Sound level) (p : Pos) : (w.enter p).1.Sound level where
  width := (width_enter w p).trans h.width
  height := (height_enter w p).trans h.height
  fixtures q kind hfixture := by
    rw [← h.fixtures q kind hfixture]
    constructor
    · intro hget
      apply get?_of_get?_enter hget
      rintro rfl
      cases hfixture
    · intro hget
      apply get?_enter_of_ne hget
      rintro rfl
      cases hfixture
  no_start q facing hget := h.no_start q facing (get?_of_get?_enter hget (by simp))
  hazards := coherent_enter h.hazards p

/-- Who stands somewhere still does so when others land. -/
theorem Stands.enter (h : w.Stands q) (p : Pos) : (w.enter p).1.Stands q := by
  rcases h with hempty | ⟨groups, hbutton⟩
  · exact .inl (get?_enter_of_ne hempty (by simp))
  · exact .inr ⟨groups, get?_enter_of_ne hbutton (by simp)⟩

/-- Who lands somewhere stands there. -/
theorem Sound.stands_target (h : w.Sound level) {kind : CellKind} (hcell : w.cell? p = some kind)
    (occupiable : kind.occupiable = true) : (w.enter p).1.Stands p := by
  have hget : w.cells.get? p = some kind := hcell
  cases kind with
  | empty => exact .inl (get?_enter_of_ne hget (by simp))
  | coin =>
      apply Or.inl
      rw [get?_enter, hget]
      simp
  | start facing => exact absurd hget (h.no_start p facing)
  | horizontalSource group => cases occupiable
  | verticalSource group => cases occupiable
  | button groups => exact .inr ⟨groups, get?_enter_of_ne hget (by simp)⟩

/-- Spawning clears the start markers and changes nothing else. -/
theorem sound_spawn (level : Level) : (spawn (ofLevel level)).1.Sound level := by
  have hget := get?_spawn (w := ofLevel level) level.starts_le
  refine ⟨width_spawn _, height_spawn _, ?_, ?_, ?_⟩
  · intro p kind hfixture
    have hcells : (ofLevel level).cells.get? p = level.cells.get? p := rfl
    rw [hget, hcells]
    cases hlevel : level.cells.get? p with
    | none => simp
    | some before =>
        cases before with
        | start facing =>
            simp only [Option.map_some, CellKind.isStart, if_true, Option.some.injEq]
            constructor
            · rintro rfl
              cases hfixture
            · rintro rfl
              cases hfixture
        | _ => simp [CellKind.isStart]
  · intro p facing h
    rw [hget] at h
    obtain ⟨before, _, heq⟩ := Option.map_eq_some_iff.1 h
    cases before <;> simp [CellKind.isStart] at heq
  · apply coherent_of_map (HazardState.coherent_start level.cells level.enabled)
      (width_spawn (ofLevel level)) (height_spawn (ofLevel level)) hget
    intro group p kind
    cases kind <;> rfl

end World

namespace RunState

variable {level : Level} {state : RunState} {i : Nat} {a a' : Actor} {world : World}
  {c : Command} {r : Resolution}

theorem sound_ofLevel (level : Level) : (ofLevel level).Sound level where
  world := World.sound_spawn level
  identity := rfl
  ids _ _ ha := id_spawn ha
  stands := by
    intro a ha
    apply Or.inl
    have hmarker : (a.pos, a.facing) ∈ (World.ofLevel level).cells.startMarkers := by
      rw [← map_spawn level.starts_le]
      exact List.mem_map_of_mem ha
    have hget := get?_spawn (w := World.ofLevel level) level.starts_le a.pos
    rw [Grid.mem_startMarkers.1 hmarker] at hget
    exact hget

/-- Replacing an element by one that looks the same is not seen. -/
theorem map_set_of_eq {α β : Type} {f : α → β} {l : List α} {i : Nat} {a a' : α}
    (h : l[i]? = some a) (heq : f a' = f a) : (l.set i a').map f = l.map f := by
  apply List.ext_getElem?
  intro j
  rw [List.getElem?_map, List.getElem?_map, List.getElem?_set]
  by_cases hj : i = j
  · subst hj
    obtain ⟨hi, rfl⟩ := List.getElem?_eq_some_iff.1 h
    simp [hi, heq]
  · simp [hj]

/-- One actor moves on in a sound world. -/
theorem Sound.set (h : state.Sound level) (hactor : state.actors[i]? = some a)
    (hidentity : a'.identity = a.identity) (hworld : world.Sound level)
    (hothers : ∀ p, state.world.Stands p → world.Stands p) (hstands : world.Stands a'.pos) :
    RunState.Sound level ⟨world, state.actors.set i a'⟩ where
  world := hworld
  identity := (map_set_of_eq hactor hidentity).trans h.identity
  ids := by
    intro j b hb
    have hids := map_set_of_eq (f := Actor.id) hactor (congrArg Prod.fst hidentity)
    have hb' : ((state.actors.set i a').map Actor.id)[j]? = some b.id := by
      rw [List.getElem?_map, hb]
      rfl
    rw [hids, List.getElem?_map] at hb'
    obtain ⟨b', hget, hid⟩ := Option.map_eq_some_iff.1 hb'
    rw [← hid]
    exact h.ids j b' hget
  stands := by
    intro b hb
    rcases List.mem_or_eq_of_mem_set hb with hold | rfl
    · exact hothers b.pos (h.stands b hold)
    · exact hstands

theorem Sound.resolves (h : state.Sound level) (hactor : state.actors[i]? = some a)
    (hresolves : Resolves state.world a c world a' r) :
    RunState.Sound level ⟨world, state.actors.set i a'⟩ := by
  have hidentity : a'.identity = a.identity := by
    rw [Actor.identity, Actor.identity, hresolves.identity.1, hresolves.identity.2]
  have hold : state.world.Stands a.pos := h.stands a (List.mem_of_getElem? hactor)
  cases hresolves with
  | turned turn rotates => exact h.set hactor hidentity h.world (fun _ hp => hp) hold
  | offGrid stride strides absent => exact h.set hactor hidentity h.world (fun _ hp => hp) hold
  | solid stride strides target kind ahead cell solid =>
      exact h.set hactor hidentity h.world (fun _ hp => hp) hold
  | moved stride strides target kind ahead cell occupiable =>
      exact h.set hactor hidentity (h.world.enter target) (fun _ hp => hp.enter target)
        (h.world.stands_target cell occupiable)

end RunState

namespace Run

/-- A run of a level in a sound state that it can be rolled back from. -/
structure Sound (level : Level) (run : Run) : Prop where
  state : run.state.Sound level
  snapshot : run.snapshot = RunState.ofLevel level

theorem Sound.operate {level : Level} {run : Run} (h : run.Sound level) (op : Operation) :
    (run.operate op).Sound level := by
  cases op with
  | execute p watcher =>
      refine ⟨?_, h.snapshot⟩
      apply Execution.state_of_preserves (x := ⟨run.state, [], run.stopped⟩) _ h.state p
      intro state i a a' world r c hstate hactor hresolves
      exact hstate.resolves hactor hresolves
  | restore =>
      refine ⟨?_, h.snapshot⟩
      have hrestored : (run.operate .restore).state = RunState.ofLevel level := h.snapshot
      rw [hrestored]
      exact RunState.sound_ofLevel level
  | cancel => exact ⟨h.state, h.snapshot⟩
  | reset => exact ⟨h.state, h.snapshot⟩

theorem Sound.operateAll {level : Level} {run : Run} (h : run.Sound level)
    (history : List Operation) : (history.foldl Run.operate run).Sound level := by
  induction history generalizing run with
  | nil => exact h
  | cons op rest ih => exact ih (h.operate op)

theorem sound_ofLevel (level : Level) : (ofLevel level).Sound level :=
  ⟨RunState.sound_ofLevel level, rfl⟩

/-- Whatever was done with a run of a level: its actors are those that were spawned,
they stand on floor or buttons, the grid is that of the level but for start markers
and coins, and the order of the groups and the field are up to date. -/
theorem sound_after (level : Level) (history : List Operation) :
    (after level history).state.Sound level := by
  have hrun : (after level history).Sound level := (sound_ofLevel level).operateAll history
  exact hrun.state

end Run

end Beamwalk
