/-
Module: Beamwalk.Proofs.Run.Foretold
Purpose: Runs end as dead reckoning foretells.
Main exports: World.Follows, World.follows_enter, RunState.Follows, RunState.follows_ofLevel,
  Execution.Foretold, Execution.foretold_performAll
-/
import Beamwalk.Proofs.Level.Landing
import Beamwalk.Proofs.Level.Spawn
import Beamwalk.Proofs.Run.Cancellation

namespace Beamwalk

/-! ### The world -/

/-- What is left of a cell's content in a run, after some landings. -/
def CellKind.leftAfter (landings : List Landing) (p : Pos) : CellKind → CellKind
  | .start _ => .empty
  | .coin => if p ∈ landedOn landings then .empty else .coin
  | kind => kind

namespace CellKind

variable {landings : List Landing} {p : Pos}

@[simp] theorem occupiable_leftAfter (kind : CellKind) :
    (kind.leftAfter landings p).occupiable = kind.occupiable := by
  cases kind with
  | coin =>
      rw [leftAfter]
      split <;> rfl
  | _ => rfl

/-- What is left casts the same beams. -/
theorem directions_leftAfter (group : Group) (kind : CellKind) :
    Field.directions group (kind.leftAfter landings p) = Field.directions group kind := by
  cases kind with
  | coin =>
      rw [leftAfter]
      split <;> rfl
  | _ => rfl

/-- Nothing but the coin on the cell of a landing goes away with it. -/
theorem leftAfter_append {l : Landing} {q : Pos} (htarget : l.target.pos? = some q)
    (kind : CellKind) :
    kind.leftAfter (landings ++ [l]) p =
      if p = q ∧ kind.leftAfter landings p = .coin then .empty else kind.leftAfter landings p := by
  have hlanded : landedOn (landings ++ [l]) = landedOn landings ++ [q] := by
    simp [landedOn, htarget]
  cases kind with
  | coin =>
      simp only [leftAfter, hlanded, List.mem_append, List.mem_singleton]
      by_cases hp : p ∈ landedOn landings
      · simp [hp]
      · by_cases hq : p = q <;> simp [hp, hq]
  | _ => simp [leftAfter]

end CellKind

/-- A world is what some landings have made of the world of a level. -/
structure World.Follows (level : Level) (landings : List Landing) (w : World) : Prop where
  hazards : w.hazards = level.hazardsAfter landings
  width : w.cells.width = level.cells.width
  height : w.cells.height = level.cells.height
  get? : ∀ p, w.cells.get? p = (level.cells.get? p).map (·.leftAfter landings p)

namespace World

variable {level : Level} {landings : List Landing} {w : World}

/-- Buttons do in a run what they would do in the level. -/
theorem Follows.toggle (h : w.Follows level landings) (groups : GroupSet) :
    w.hazards.toggle groups w.cells = (level.hazardsAfter landings).toggle groups level.cells := by
  simp only [HazardState.toggle, h.hazards, HazardState.mk.injEq, true_and]
  exact Field.derive_map h.width h.height h.get?
    (fun group p => CellKind.directions_leftAfter group) _ _

/-- A world goes on following the landings when an actor lands. -/
theorem follows_enter (h : w.Follows level landings) {l : Landing} {p : Pos} {kind : CellKind}
    (hwithin : l.target.within level.cells = some (p, kind)) :
    (w.enter p).1.Follows level (landings ++ [l]) where
  hazards := by
    have hcell : w.cell? p = some (kind.leftAfter landings p) := by
      rw [cell?, h.get?, (Spot.within_eq_some_iff.1 hwithin).2]
      rfl
    rw [hazards_enter, hcell, Level.hazardsAfter_append_singleton, hwithin]
    cases kind with
    | button groups => exact h.toggle groups
    | coin =>
        rw [CellKind.leftAfter]
        by_cases hp : p ∈ landedOn landings
        · rw [if_pos hp]
          exact h.hazards
        · rw [if_neg hp]
          exact h.hazards
    | _ => exact h.hazards
  width := (width_enter w p).trans h.width
  height := (height_enter w p).trans h.height
  get? q := by
    rw [get?_enter, h.get?, Option.map_map]
    congr 1
    funext kind'
    exact (CellKind.leftAfter_append (Spot.within_eq_some_iff.1 hwithin).1 kind').symm

/-- The coins that are left are those that nobody landed on. -/
theorem Follows.coinsRemaining (h : w.Follows level landings) :
    w.coinsRemaining = level.uneaten landings := by
  rw [World.coinsRemaining, Grid.coins, Grid.count_eq_countP_scan,
    Grid.scan_of_get? h.width h.height (fun p kind => kind.leftAfter landings p) h.get?,
    List.countP_map, Level.uneaten]
  congr 1
  funext e
  obtain ⟨p, kind⟩ := e
  cases kind with
  | coin => by_cases hp : p ∈ landedOn landings <;> simp [CellKind.leftAfter, hp]
  | _ => rfl

/-- A walker sees ahead what dead reckoning has there, less what was eaten. -/
theorem Follows.ahead (h : w.Follows level landings) (p : Pos) (d : Direction) (distance : Nat) :
    ((p.step d distance).bind fun target => (w.cell? target).map (target, ·)) =
      (((Spot.ofPos p).moved d.offset distance).within level.cells).map fun e =>
        (e.1, e.2.leftAfter landings e.1) := by
  rw [Spot.within, Spot.pos?_moved_ofPos, Option.map_bind]
  congr 1
  funext target
  simp only [cell?, h.get?, Option.map_map, Function.comp_def]

end World

/-! ### The actors -/

/-- Where an actor is and the way he faces. -/
def Actor.heading (a : Actor) : Heading := ⟨.ofPos a.pos, a.facing.offset⟩

theorem Actor.heading_rotate (a : Actor) (turn : Turn) :
    (a.rotate turn).1.heading = ⟨.ofPos a.pos, turn.rotate a.facing.offset⟩ := by
  rw [heading, rotate, Offset.offset_apply]

namespace Command

variable {c : Command}

theorem resolve_turn {turn : Turn} (h : c.turn? = some turn) (w : World) (a : Actor) :
    resolve w a c = some (w, a.rotate turn) := by
  cases c <;> simp_all [turn?, resolve]

theorem resolve_stride {stride : Stride} (h : c.stride? = some stride) (w : World) (a : Actor) :
    resolve w a c = some (a.travel w stride) := by
  cases c <;> simp_all [stride?, resolve]

end Command

/-- A run is where dead reckoning has it after some landings. -/
structure RunState.Follows (level : Level) (landings : List Landing) (headings : List Heading)
    (state : RunState) : Prop where
  world : state.world.Follows level landings
  headings : state.actors.map Actor.heading = headings
  id : ∀ {i : Nat} {a : Actor}, state.actors[i]? = some a → a.id = i

namespace RunState

variable {level : Level} {landings landings' : List Landing} {headings : List Heading}
  {state : RunState} {i : Nat} {a a' : Actor} {world : World}

theorem Follows.length (h : state.Follows level landings headings) :
    state.actors.length = headings.length := by
  rw [← h.headings, List.length_map]

theorem Follows.getElem? (h : state.Follows level landings headings) :
    headings[i]? = state.actors[i]?.map Actor.heading := by
  rw [← h.headings, List.getElem?_map]

/-- One actor and the world move on together. -/
theorem Follows.set (h : state.Follows level landings headings) (hactor : state.actors[i]? = some a)
    (hid : a'.id = a.id) {f : Heading → Heading} (hheading : a'.heading = f a.heading)
    (hworld : world.Follows level landings') :
    RunState.Follows level landings' (headings.modify i f) ⟨world, state.actors.set i a'⟩ where
  world := hworld
  headings := by
    have hi : i < state.actors.length := (List.getElem?_eq_some_iff.1 hactor).1
    apply List.ext_getElem?
    intro j
    rw [List.getElem?_map, List.getElem?_set, List.getElem?_modify, h.getElem?]
    by_cases hj : i = j
    · subst hj
      rw [if_pos rfl, if_pos hi, hactor]
      simp [hheading]
    · simp [hj]
  id := by
    intro j b hb
    rw [List.getElem?_set] at hb
    by_cases hj : i = j
    · subst hj
      rw [if_pos rfl] at hb
      obtain ⟨_, heq⟩ := Option.ite_none_right_eq_some.1 hb
      cases heq
      exact hid.trans (h.id hactor)
    · rw [if_neg hj] at hb
      exact h.id hb

/-- A move fails as its landing does, and otherwise it leads there. -/
theorem Follows.travel (h : state.Follows level landings headings)
    (hactor : state.actors[i]? = some a) (stride : Stride) {l : Landing} (hl : l.actor = i)
    (hsource : l.source = .ofPos a.pos)
    (htarget : l.target = (Spot.ofPos a.pos).moved a.facing.offset stride.distance) :
    ∃ world a' r, a.travel state.world stride = (world, a', r) ∧
      r.failure a.id = l.fault level landings ∧
      (l.fault level landings = none → world.Follows level (landings ++ [l]) ∧ a'.id = a.id ∧
        a'.heading = ⟨l.target, a.facing.offset⟩) := by
  have hid : a.id = l.actor := (h.id hactor).trans hl.symm
  have hahead := h.world.ahead a.pos a.facing stride.distance
  rw [← htarget] at hahead
  cases hwithin : l.target.within level.cells with
  | none =>
      simp only [Actor.travel, Landing.fault, hahead, hwithin, hid, hsource]
      exact ⟨_, _, _, rfl, rfl, fun hnone => by cases hnone⟩
  | some e =>
      obtain ⟨p, kind⟩ := e
      rw [hwithin] at hahead
      rw [Landing.fault_of_within hwithin]
      simp only [Actor.travel, hahead, hid]
      cases hoccupiable : kind.occupiable with
      | false =>
          simp only [Option.map_some, CellKind.occupiable_leftAfter, hoccupiable]
          exact ⟨_, _, _, rfl, rfl, fun hnone => by cases hnone⟩
      | true =>
          have hfollows := World.follows_enter h.world hwithin
          have hlive := World.isSome_strike_enter state.world p
          rw [World.isLive, hfollows.hazards] at hlive
          simp only [Option.map_some, CellKind.occupiable_leftAfter, hoccupiable, if_true]
          refine ⟨_, _, _, rfl, ?_, fun _ => ⟨hfollows, rfl, ?_⟩⟩
          · rw [← hlive]
            cases (state.world.enter p).2.strike <;> rfl
          · rw [Actor.heading, Spot.pos?_eq_some_iff.1 (Spot.within_eq_some_iff.1 hwithin).1]

/-- Actors start on the start markers. -/
theorem follows_ofLevel (level : Level) :
    (RunState.ofLevel level).Follows level [] level.headings where
  world :=
    { hazards := rfl
      width := width_spawn _
      height := height_spawn _
      get? := by
        intro p
        refine (get?_spawn level.starts_le p).trans ?_
        congr 1
        funext kind
        cases kind <;> simp [CellKind.leftAfter, CellKind.isStart, landedOn] }
  headings := by
    have hmarkers := map_spawn (w := World.ofLevel level) level.starts_le
    have hheadings : (RunState.ofLevel level).actors.map Actor.heading =
        ((spawn (World.ofLevel level)).2.map fun a => (a.pos, a.facing)).map fun marker =>
          ⟨.ofPos marker.1, marker.2.offset⟩ := by
      rw [List.map_map]
      rfl
    rw [hheadings, hmarkers]
    rfl
  id := id_spawn

end RunState

/-! ### The run -/

namespace Execution

/-- What performing commands for actors comes to, as dead reckoning has it: a run
that goes on is where it should be, and one that fails does so for the first
fault. -/
def Foretold (level : Level) (landings : List Landing) (headings : List Heading)
    (entries : List (Command × Nat)) : Execution × Option (Halt FailureReason) → Prop
  | (x, none) =>
      firstFault level landings (reckon headings entries) = none ∧
        x.state.Follows level (landings ++ reckon headings entries) (headingsAfter headings entries)
  | (x, some .stopped) => x.stopped = true
  | (_, some (.failed reason)) =>
      firstFault level landings (reckon headings entries) = some reason

variable {level : Level} {landings : List Landing} {headings : List Heading}
  {front back : List (Command × Nat)} {watcher : Watcher} {x : Execution} {c : Command}

/-- One stretch after the other. -/
theorem Foretold.append {performed : Execution × Option (Halt FailureReason)}
    (h : Foretold level landings headings front (x, none))
    (h' : Foretold level (landings ++ reckon headings front) (headingsAfter headings front) back
      performed) :
    Foretold level landings headings (front ++ back) performed := by
  obtain ⟨hfault, _⟩ := h
  rcases performed with ⟨y, _ | _ | reason⟩
  · obtain ⟨hfault', hfollows⟩ := h'
    refine ⟨?_, ?_⟩
    · rw [reckon_append, firstFault_append, hfault, hfault']
      rfl
    · rwa [reckon_append, headingsAfter_append, ← List.append_assoc]
  · exact h'
  · have hreason : firstFault level landings (reckon headings (front ++ back)) = some reason := by
      rw [reckon_append, firstFault_append, hfault]
      exact h'
    exact hreason

/-- What has ended a run is not undone by what would come later. -/
theorem Foretold.ended {why : Halt FailureReason}
    (h : Foretold level landings headings front (x, some why)) :
    Foretold level landings headings (front ++ back) (x, some why) := by
  cases why with
  | stopped => exact h
  | failed reason =>
      have hreason : firstFault level landings (reckon headings (front ++ back)) = some reason := by
        rw [reckon_append, firstFault_append, show firstFault level landings
          (reckon headings front) = some reason from h]
        rfl
      exact hreason

theorem foretold_nil (h : x.state.Follows level landings headings) :
    Foretold level landings headings [] (x, none) :=
  ⟨rfl, by simpa [reckon, headingsAfter] using h⟩

/-- A command for nobody. -/
theorem foretold_absent (watcher : Watcher) (h : x.state.Follows level landings headings)
    {index : Nat} (hactor : x.state.actors[index]? = none) :
    Foretold level landings headings [(c, index)] (x.performFor watcher c index) := by
  have hperformed : x.performFor watcher c index = (x, none) := by
    simp [performFor, hactor]
  have hout : headings.length ≤ index := by
    rw [← h.length]
    exact List.getElem?_eq_none_iff.1 hactor
  rw [hperformed]
  constructor
  · simp [reckon, h.getElem?, hactor, firstFault]
  · simpa [reckon, headingsAfter, h.getElem?, hactor, List.modify_eq_self hout] using h

/-- Turning leads nobody anywhere. -/
theorem foretold_turn (watcher : Watcher) (h : x.state.Follows level landings headings)
    {index : Nat} {a : Actor} (hactor : x.state.actors[index]? = some a) {turn : Turn}
    (hturn : c.turn? = some turn) (hstride : c.stride? = none) :
    Foretold level landings headings [(c, index)] (x.performFor watcher c index) := by
  have hreckon : reckon headings [(c, index)] = [] := by
    simp [reckon, h.getElem?, hactor, hstride]
  rw [performFor_resolved hactor (Command.resolve_turn hturn _ _)]
  constructor
  · rw [hreckon]
    rfl
  · rw [hreckon, List.append_nil, state_resolved]
    apply h.set hactor
    · rfl
    · rw [Heading.after_turn hturn]
      exact a.heading_rotate turn
    · exact h.world

/-- Moving leads to one landing. -/
theorem foretold_move (watcher : Watcher) (h : x.state.Follows level landings headings)
    {index : Nat} {a : Actor} (hactor : x.state.actors[index]? = some a) {stride : Stride}
    (hstride : c.stride? = some stride) :
    Foretold level landings headings [(c, index)] (x.performFor watcher c index) := by
  let l : Landing := ⟨index, .ofPos a.pos, (Spot.ofPos a.pos).moved a.facing.offset stride.distance⟩
  have hreckon : reckon headings [(c, index)] = [l] := by
    simp [reckon, h.getElem?, hactor, hstride, Heading.after_stride hstride, Actor.heading, l]
  have hfirst : firstFault level landings [l] = l.fault level landings := Option.or_none
  obtain ⟨world, a', r, htravel, hfailure, hfollows⟩ :=
    h.travel hactor stride (l := l) rfl rfl rfl
  have hresolve := Command.resolve_stride hstride x.state.world a
  rw [htravel] at hresolve
  rw [performFor_resolved hactor hresolve, hfailure]
  cases hfault : l.fault level landings with
  | none =>
      obtain ⟨hworld, hid, hheading⟩ := hfollows hfault
      constructor
      · rw [hreckon, hfirst, hfault]
      · rw [hreckon, state_resolved]
        apply h.set hactor hid
        · rw [hheading, Heading.after_stride hstride]
          rfl
        · exact hworld
  | some reason =>
      cases hstopped : (x.resolved watcher index a a' world r).stopped with
      | true =>
          rw [Option.map_some, if_pos rfl]
          exact hstopped
      | false =>
          rw [Option.map_some, if_neg Bool.false_ne_true, Foretold, hreckon, hfirst, hfault]

/-- One command for one actor. -/
theorem foretold_performFor (watcher : Watcher) (h : x.state.Follows level landings headings)
    (plain : c.isMarker = false) (acts : c.isReserved = false) (index : Nat) :
    Foretold level landings headings [(c, index)] (x.performFor watcher c index) := by
  cases hactor : x.state.actors[index]? with
  | none => exact foretold_absent watcher h hactor
  | some a =>
      rcases Command.turn?_or_stride? plain acts with
        ⟨turn, hturn, hstride⟩ | ⟨stride, hstride, -⟩
      · exact foretold_turn watcher h hactor hturn hstride
      · exact foretold_move watcher h hactor hstride

/-- One command for several actors. -/
theorem foretold_performEach (watcher : Watcher) (h : x.state.Follows level landings headings)
    (plain : c.isMarker = false) (acts : c.isReserved = false) (indices : List Nat) :
    Foretold level landings headings (indices.map (c, ·)) (performEach watcher c indices x) := by
  induction indices generalizing x landings headings with
  | nil => exact foretold_nil h
  | cons index rest ih =>
      have hone := foretold_performFor watcher h plain acts index
      rw [performEach, List.map_cons, ← List.singleton_append]
      rcases hperformed : x.performFor watcher c index with ⟨y, _ | why⟩
      · rw [hperformed] at hone
        exact hone.append (ih hone.2)
      · rw [hperformed] at hone
        exact hone.ended

/-- Several commands, each for all actors. -/
theorem foretold_performAll (watcher : Watcher) (h : x.state.Follows level landings headings)
    {commands : List Command}
    (hcommands : ∀ c ∈ commands, c.isMarker = false ∧ c.isReserved = false) :
    Foretold level landings headings (itinerary headings.length commands)
      ((machine watcher).performAll commands x) := by
  induction commands generalizing x landings headings with
  | nil =>
      cases hstopped : x.stopped with
      | true =>
          rw [Machine.performAll_of_stopped hstopped]
          exact hstopped
      | false =>
          rw [Machine.performAll_nil hstopped]
          exact foretold_nil h
  | cons c rest ih =>
      cases hstopped : x.stopped with
      | true =>
          rw [Machine.performAll_of_stopped hstopped]
          exact hstopped
      | false =>
          obtain ⟨plain, acts⟩ := hcommands c (List.mem_cons_self ..)
          have hone : Foretold level landings headings ((List.range headings.length).map (c, ·))
              ((machine watcher).perform c x) := by
            rw [← h.length]
            exact foretold_performEach watcher h plain acts _
          rw [Machine.performAll_cons hstopped, itinerary_cons]
          rcases hperformed : (machine watcher).perform c x with ⟨y, _ | why⟩
          · rw [hperformed] at hone
            have hrest := ih hone.2 fun c' hc' => hcommands c' (List.mem_cons_of_mem _ hc')
            rw [length_headingsAfter] at hrest
            exact hone.append hrest
          · rw [hperformed] at hone
            exact hone.ended

/-- The verdict at the end of a program counts the coins that are left. -/
theorem settle_outcome (watcher : Watcher) (x : Execution) :
    (x.settle watcher).2 =
      if x.state.world.coinsRemaining = 0 then .success
      else .failure (.coinsUneaten x.state.world.coinsRemaining) := by
  unfold settle
  split
  · next hcoins => rw [if_pos hcoins]
  · next remaining hcoins => rw [if_neg (by omega), hcoins]

end Execution

/-- The outcome of a run that is not stopped is the outcome that dead reckoning
foretells for the flat form of its program. -/
theorem start_foretold (level : Level) {p : Program} (balanced : p.check = .ok ())
    (watcher : Watcher) (unstopped : (start p level watcher).run.stopped = false) :
    (start p level watcher).result = .ok (level.foretold p.unrolled.commands) := by
  have hcommands : p.unrolled.commands = p.outline.head.flat := Program.commands_ofCommands _
  have hforetold := Execution.foretold_performAll watcher
    (x := ⟨RunState.ofLevel level, [], false⟩) (RunState.follows_ofLevel level)
    fun c (hc : c ∈ p.outline.head.flat) => Block.mem_flat hc
  rw [start, Run.execute] at unstopped ⊢
  simp only [Run.ofLevel, Execution.run_balanced balanced] at unstopped ⊢
  rw [hcommands, Level.foretold]
  rcases hperformed : (Execution.machine watcher).performAll p.outline.head.flat
      ⟨RunState.ofLevel level, [], false⟩ with ⟨y, _ | _ | reason⟩
  · rw [hperformed] at hforetold
    obtain ⟨hfault, hfollows⟩ := hforetold
    rw [List.nil_append] at hfollows
    have hsettle := Execution.settle_outcome watcher y
    rw [hfollows.world.coinsRemaining] at hsettle
    simp only [hfault, Execution.verdict, hsettle]
  · rw [hperformed] at hforetold unstopped
    have hstopped : y.stopped = true := hforetold
    have hnot : y.stopped = false := unstopped
    rw [hstopped] at hnot
    cases hnot
  · rw [hperformed] at hforetold
    have hfault : firstFault level [] (reckon level.headings
        (itinerary level.headings.length p.outline.head.flat)) = some reason := hforetold
    simp only [hfault, Execution.verdict]

/-- Who turns right, five times as well as once, has the source in front of him and the
button behind it; who turns left has the edge in front of him, and who turns around the
coin. -/
theorem start_foretold_trap :
    let result (commands : List Command) := (start (.ofCommands commands) .trap .silent).result
    result [.loopStart (.clamp 5), .turnRight, .loopEnd, .jump] =
        .ok (.failure (.struck 0 ⟨0, 2⟩)) ∧
      result [.turnRight, .advance] = .ok (.failure (.blocked 0 ⟨0, 1⟩)) ∧
      result [.turnLeft, .advance] = .ok (.failure (.offGrid 0 ⟨0, 0⟩)) ∧
      result [.uTurn, .advance] = .ok .success := by
  intro result
  have hresult (commands : List Command)
      (balanced : (Program.ofCommands commands).check = .ok ()) :=
    start_foretold .trap balanced .silent (Execution.stopped_run_silent rfl _)
  refine ⟨(hresult _ rfl).trans (congrArg Except.ok ?_),
    (hresult _ rfl).trans (congrArg Except.ok ?_), (hresult _ rfl).trans (congrArg Except.ok ?_),
    (hresult _ rfl).trans (congrArg Except.ok ?_)⟩ <;> decide

end Beamwalk
