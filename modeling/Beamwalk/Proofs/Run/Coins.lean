/-
Module: Beamwalk.Proofs.Run.Coins
Purpose: Coins are eaten once each, where the events say so, and nothing else on the grid changes.
Main exports: collected, Level.Eaten, Level.Eaten.eat, Resolves.eats, Execution.eaten_run,
  Run.eventsAlong, Run.coins_conserved
-/
import Beamwalk.Proofs.Run.Soundness

namespace Beamwalk

/-- Where a coin was eaten, if the event tells of that. -/
def RunEvent.collected? : RunEvent → Option Pos
  | .coinCollected _ pos => some pos
  | _ => none

/-- The places where coins were eaten, in the order in which they were. -/
def collected (events : List RunEvent) : List Pos := events.filterMap RunEvent.collected?

@[simp] theorem collected_append (front back : List RunEvent) :
    collected (front ++ back) = collected front ++ collected back :=
  List.filterMap_append

namespace Level

/-- The grid of a level without its start markers and without the coins that lay at
some places, each of which is listed once. -/
structure Eaten (level : Level) (places : List Pos) (cells : Grid CellKind) : Prop where
  width : cells.width = level.cells.width
  height : cells.height = level.cells.height
  shows : ∀ p, cells.get? p = (level.cells.get? p).map fun kind =>
    if kind.isStart ∨ p ∈ places then .empty else kind
  nodup : places.Nodup
  coins : ∀ p ∈ places, level.cells.get? p = some .coin
  total : level.coinCount = places.length + cells.coins

variable {level : Level} {places : List Pos} {cells : Grid CellKind} {p : Pos}

/-- Spawning eats nothing. -/
theorem eaten_spawn (level : Level) : level.Eaten [] (spawn (World.ofLevel level)).1.cells := by
  have hwidth := width_spawn (World.ofLevel level)
  have hheight := height_spawn (World.ofLevel level)
  have hget : ∀ p, (spawn (World.ofLevel level)).1.cells.get? p =
      (level.cells.get? p).map fun kind => if kind.isStart then .empty else kind :=
    get?_spawn level.starts_le
  refine ⟨hwidth, hheight, by simpa using hget, List.nodup_nil, by simp, ?_⟩
  rw [coinCount, Grid.coins, Grid.coins, Grid.count_eq_countP_scan, Grid.count_eq_countP_scan,
    Grid.scan_of_get? hwidth hheight _ hget, List.countP_map, List.length_nil, Nat.zero_add]
  apply List.countP_congr
  intro e _
  cases he : e.2 <;> simp [he, CellKind.isStart]

namespace Eaten

/-- A cell that is neither a start marker nor eaten shows what it always did. -/
theorem get?_of_notMem (h : level.Eaten places cells) {kind : CellKind}
    (hlevel : level.cells.get? p = some kind) (hstart : kind.isStart = false) (hp : p ∉ places) :
    cells.get? p = some kind := by
  rw [h.shows, hlevel]
  simp [hstart, hp]

/-- The coins on the grid are those of the level that have not been eaten. -/
theorem get?_eq_coin (h : level.Eaten places cells) :
    cells.get? p = some .coin ↔ level.cells.get? p = some .coin ∧ p ∉ places := by
  constructor
  · intro hcoin
    rw [h.shows, Option.map_eq_some_iff] at hcoin
    obtain ⟨kind, hlevel, hkind⟩ := hcoin
    split at hkind
    · cases hkind
    · next hkept =>
        rw [hkind] at hlevel
        exact ⟨hlevel, fun hp => hkept (.inr hp)⟩
  · intro ⟨hlevel, hp⟩
    exact h.get?_of_notMem hlevel rfl hp

/-- Eating a coin that is on the grid. -/
theorem eat (h : level.Eaten places cells) (hcoin : cells.get? p = some .coin) :
    level.Eaten (places ++ [p]) (cells.set p .empty) := by
  obtain ⟨hlevel, hp⟩ := h.get?_eq_coin.1 hcoin
  refine ⟨?_, ?_, ?_, ?_, ?_, ?_⟩
  · rw [Grid.width_set, h.width]
  · rw [Grid.height_set, h.height]
  · intro q
    rw [Grid.get?_set, h.shows]
    by_cases hq : q = p
    · subst hq
      simp [hlevel, Grid.contains_of_get? hcoin]
    · simp [hq]
  · rw [List.nodup_append]
    refine ⟨h.nodup, List.pairwise_singleton _ p, ?_⟩
    rintro q hq _ hnew rfl
    rw [List.mem_singleton.1 hnew] at hq
    exact hp hq
  · intro q hq
    rcases List.mem_append.1 hq with hold | hnew
    · exact h.coins q hold
    · rw [List.mem_singleton.1 hnew, hlevel]
  · have hcount : (cells.set p .empty).coins + 1 = cells.coins :=
      Grid.count_set hcoin .empty (· == .coin)
    rw [h.total, List.length_append, List.length_singleton, ← hcount, Nat.add_assoc,
      Nat.add_comm 1]

end Eaten

end Level

section

variable {level : Level} {places : List Pos} {w w' : World} {a a' : Actor} {c : Command}
  {r : Resolution}

/-- What is collected in a resolution is what the landing ate. -/
theorem Resolution.collected_moved (actor : Nat) (enabled : Switches) (move : Move) :
    collected (announcement actor (.moved move) ++ consequences actor enabled (.moved move)) =
      if move.coin then [move.target] else [] := by
  obtain ⟨stride, source, target, coin, toggled, strike⟩ := move
  cases stride <;> cases strike <;> cases coin <;> cases toggled <;> rfl

/-- Whatever a command comes to for an actor, it eats the coins that are heard of. -/
theorem Resolves.eats (h : Resolves w a c w' a' r) (heaten : level.Eaten places w.cells)
    (enabled : Switches) :
    level.Eaten
      (places ++ collected (r.announcement a.id ++ r.consequences a.id enabled)) w'.cells := by
  have hidle : level.Eaten (places ++ []) w.cells := by rwa [List.append_nil]
  cases h with
  | turned => exact hidle
  | offGrid => exact hidle
  | solid => exact hidle
  | moved stride strides target kind ahead cell occupiable =>
      rw [Resolution.collected_moved]
      rcases w.enter_cases target with ⟨hcoin, henter⟩ | ⟨groups, _, henter⟩ | ⟨_, henter⟩
      · rw [henter]
        exact heaten.eat hcoin
      · rw [henter]
        exact hidle
      · rw [henter]
        exact hidle

end

/-- A run eats the coins that are heard of, however it ends. -/
theorem Execution.eaten_run {level : Level} {places : List Pos} {x : Execution} (watcher : Watcher)
    (h : level.Eaten (places ++ collected x.heard.reverse) x.state.world.cells) (p : Program) :
    level.Eaten (places ++ collected (run watcher p x).1.heard.reverse)
      (run watcher p x).1.state.world.cells := by
  apply preserves_run
    (I := fun y => level.Eaten (places ++ collected y.heard.reverse) y.state.world.cells) _ _ h
  · intro y index actor actor' world r c hy _ hresolves
    rw [heard_resolved, state_resolved, collected_append, ← List.append_assoc]
    exact hresolves.eats hy _
  · intro y remaining hy
    have hreport : collected (y.emit watcher (.coinsUneaten remaining)).heard.reverse =
        collected y.heard.reverse := by
      simp [emit, collected, RunEvent.collected?]
    rw [hreport]
    exact hy

namespace Run

/-- The events of an operation: those of the execution, if it is one. -/
def eventsOf (run : Run) : Operation → List RunEvent
  | .execute program watcher => (run.execute program watcher).events
  | .restore | .cancel | .reset => []

/-- The events of several operations, those of the first one first. -/
def eventsAlong : Run → List Operation → List RunEvent
  | _, [] => []
  | run, op :: rest => run.eventsOf op ++ (run.operate op).eventsAlong rest

variable {level : Level} {places : List Pos} {run : Run}

/-- An operation that does not roll the run back eats the coins that are heard of. -/
theorem eaten_operate (h : level.Eaten places run.state.world.cells) {op : Operation}
    (hop : op ≠ .restore) :
    level.Eaten (places ++ collected (run.eventsOf op)) (run.operate op).state.world.cells := by
  have hidle : level.Eaten (places ++ []) run.state.world.cells := by rwa [List.append_nil]
  cases op with
  | execute p watcher =>
      exact Execution.eaten_run (x := ⟨run.state, [], run.stopped⟩) watcher hidle p
  | restore => exact absurd rfl hop
  | cancel => exact hidle
  | reset => exact hidle

theorem eaten_operateAll (h : level.Eaten places run.state.world.cells) {history : List Operation}
    (hhistory : ∀ op ∈ history, op ≠ .restore) :
    level.Eaten (places ++ collected (run.eventsAlong history))
      (history.foldl operate run).state.world.cells := by
  induction history generalizing run places with
  | nil =>
      rw [eventsAlong]
      simpa [collected] using h
  | cons op rest ih =>
      obtain ⟨hop, hrest⟩ := List.forall_mem_cons.1 hhistory
      rw [eventsAlong, collected_append, ← List.append_assoc]
      exact ih (eaten_operate h hop) hrest

/-- As long as a run is not rolled back: every coin that is heard of is one of the
level and is heard of once, the coins that are left are the others, and every other
cell but the start markers stays as it was. -/
theorem coins_conserved (level : Level) (history : List Operation)
    (hhistory : ∀ op ∈ history, op ≠ .restore) :
    let final := (after level history).state.world
    let places := collected ((ofLevel level).eventsAlong history)
    places.Nodup ∧
    (∀ p ∈ places, level.cells.get? p = some .coin) ∧
    (∀ p, final.cells.get? p = some .coin ↔ level.cells.get? p = some .coin ∧ p ∉ places) ∧
    level.coinCount = places.length + final.coinsRemaining ∧
    (final.cells.width = level.cells.width ∧ final.cells.height = level.cells.height) ∧
    ∀ p kind, level.cells.get? p = some kind → kind.isStart = false → p ∉ places →
      final.cells.get? p = some kind := by
  intro final places
  have hfresh : level.Eaten [] (ofLevel level).state.world.cells := Level.eaten_spawn level
  have heaten : level.Eaten places final.cells := eaten_operateAll hfresh hhistory
  exact ⟨heaten.nodup, heaten.coins, fun p => heaten.get?_eq_coin, heaten.total,
    ⟨heaten.width, heaten.height⟩, fun p kind hlevel hstart hp =>
      heaten.get?_of_notMem hlevel hstart hp⟩

theorem coins_conserved_corridor :
    let history : List Operation := [.execute (.ofCommands [.advance]) .silent, .cancel, .reset,
      .execute (.ofCommands [.jump, .jump]) .silent]
    let final := (after .corridor history).state.world
    (∀ op ∈ history, op ≠ .restore) ∧
    collected ((ofLevel .corridor).eventsAlong history) = [⟨0, 1⟩, ⟨0, 3⟩] ∧
    Level.corridor.coinCount = 2 + final.coinsRemaining ∧
    final.cells.get? ⟨0, 1⟩ ≠ some .coin ∧
    final.cells.get? ⟨0, 2⟩ = some .empty := by
  intro history final
  have hhistory : ∀ op ∈ history, op ≠ .restore := by simp [history]
  have hplaces : collected ((ofLevel .corridor).eventsAlong history) = [⟨0, 1⟩, ⟨0, 3⟩] := by
    simp only [history, eventsAlong, eventsOf, operate, execute, Execution.run_script]
    decide +kernel
  obtain ⟨_, _, hcoin, htotal, _, hkept⟩ := coins_conserved .corridor history hhistory
  rw [hplaces] at hcoin htotal hkept
  refine ⟨hhistory, hplaces, htotal, ?_, hkept _ _ (by decide) rfl (by decide)⟩
  intro hleft
  exact ((hcoin _).1 hleft).2 (by decide)

end Run

end Beamwalk
