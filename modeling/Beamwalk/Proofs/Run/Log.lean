/-
Module: Beamwalk.Proofs.Run.Log
Purpose: The JSON log of a run says everything about the run.
Main exports: Level.Addressable, Execution.addressable_run, Execution.addressable_outcome,
  readLog, readLog_jsonLog, Run.jsonLog_lossless
-/
import Beamwalk.CommandLine
import Beamwalk.Proofs.Format.Event
import Beamwalk.Proofs.Run.Mirror
import Beamwalk.Proofs.Run.Narration
import Beamwalk.Proofs.Run.Truth
import Beamwalk.Proofs.Storage.Documents

namespace Beamwalk

open Json.Reader (readText)
open Numeral (wordLimit)

/-! ### The numbers of a run have 64 bits -/

/-- The cells can be numbered with 64 bits, as those of every grid in memory can. -/
def Level.Addressable (level : Level) : Prop :=
  level.cells.width * level.cells.height < wordLimit

theorem Grid.count_le {α : Type} (g : Grid α) (test : α → Bool) :
    g.count test ≤ g.width * g.height :=
  g.size_eq ▸ Array.countP_le_size

/-- A position on a grid is no further from its corner than the grid has cells. -/
theorem Grid.addressable_of_contains {α : Type} {g : Grid α} {p : Pos} (h : g.contains p = true)
    (hcells : g.width * g.height < wordLimit) : p.addressable = true := by
  simp only [contains, Bool.and_eq_true, decide_eq_true_eq] at h
  have hrow : g.height ≤ g.width * g.height :=
    Nat.le_mul_of_pos_left _ (Nat.lt_of_le_of_lt (Nat.zero_le _) h.2)
  have hcol : g.width ≤ g.width * g.height :=
    Nat.le_mul_of_pos_right _ (Nat.lt_of_le_of_lt (Nat.zero_le _) h.1)
  rw [Pos.addressable, Bool.and_eq_true, decide_eq_true_eq, decide_eq_true_eq]
  exact ⟨Nat.lt_of_lt_of_le h.1 (Nat.le_trans hrow (Nat.le_of_lt hcells)),
    Nat.lt_of_lt_of_le h.2 (Nat.le_trans hcol (Nat.le_of_lt hcells))⟩

section

variable {level : Level} {w : World} {state : RunState} {p : Pos} {i : Nat} {a : Actor}

theorem World.Sound.addressable (h : w.Sound level) (hlevel : level.Addressable)
    {kind : CellKind} (hp : w.cells.get? p = some kind) : p.addressable = true := by
  refine Grid.addressable_of_contains (Grid.contains_of_get? hp) ?_
  rw [h.width, h.height]
  exact hlevel

theorem World.Sound.coinsRemaining_lt (h : w.Sound level) (hlevel : level.Addressable) :
    w.coinsRemaining < wordLimit := by
  refine Nat.lt_of_le_of_lt (w.cells.count_le _) ?_
  rw [h.width, h.height]
  exact hlevel

theorem RunState.Sound.addressable_actor (h : state.Sound level) (hlevel : level.Addressable)
    (hactor : state.actors[i]? = some a) : a.pos.addressable = true := by
  obtain hfloor | ⟨groups, hbutton⟩ := h.stands a (List.mem_of_getElem? hactor)
  · exact h.world.addressable hlevel hfloor
  · exact h.world.addressable hlevel hbutton

/-- The roster is short. -/
theorem RunState.Sound.index_lt (h : state.Sound level) (hactor : state.actors[i]? = some a) :
    i < wordLimit := by
  have hi : i < state.actors.length := (List.getElem?_eq_some_iff.mp hactor).1
  rw [h.length_actors] at hi
  exact Nat.lt_trans (Nat.lt_of_lt_of_le hi level.starts_le) (by decide)

/-- What is heard of a resolution has numbers of 64 bits. -/
theorem Resolves.addressable {a' : Actor} {c : Command} {world : World} {r : Resolution}
    (h : Resolves state.world a c world a' r) (hsound : state.Sound level)
    (hlevel : level.Addressable) (hactor : state.actors[a.id]? = some a) (enabled : Switches) :
    ∀ event ∈ r.announcement a.id ++ r.consequences a.id enabled, event.Addressable := by
  have hid := hsound.index_lt hactor
  have hpos := hsound.addressable_actor hlevel hactor
  cases h with
  | turned turn rotates =>
      simpa [Resolution.announcement, Resolution.consequences, RunEvent.Addressable] using hid
  | offGrid stride strides absent =>
      simp [Resolution.announcement, Resolution.consequences, RunEvent.Addressable,
        Obstacle.Addressable, hid, hpos]
  | solid stride strides target kind ahead cell solid =>
      have htarget := hsound.world.addressable hlevel cell
      simp [Resolution.announcement, Resolution.consequences, RunEvent.Addressable,
        Obstacle.Addressable, hid, hpos, htarget]
  | moved stride strides target kind ahead cell occupiable =>
      have htarget := hsound.world.addressable hlevel cell
      intro event hevent
      rw [Resolution.announcement_moved, Resolution.consequences] at hevent
      simp only [List.mem_append, List.mem_cons, Option.mem_toList, Option.map_eq_some_iff]
        at hevent
      obtain (rfl | ⟨timing, -, rfl⟩) | hcoin | ⟨groups, -, rfl⟩ := hevent
      · cases stride <;> exact ⟨hid, hpos, htarget⟩
      · exact ⟨hid, htarget⟩
      · split at hcoin
        · rw [List.mem_singleton.mp hcoin]
          exact ⟨hid, htarget⟩
        · cases hcoin
      · trivial

end

namespace Execution

variable {watcher : Watcher} {level : Level} {x y : Execution}

/-- A run in a sound state of which nothing was heard that has numbers of more than 64
bits. -/
structure Addressable (level : Level) (x : Execution) : Prop where
  sound : x.state.Sound level
  heard : ∀ event ∈ x.heard, event.Addressable

theorem addressable_performAll (watcher : Watcher) (hlevel : level.Addressable)
    (h : x.Addressable level) (commands : List Command) : ((machine watcher).performAll commands x).1.Addressable level := by
  have hmachine : (machine watcher).Preserves (Addressable level) := by
    apply preserves_machine
    intro y index actor actor' world r c hy hactor hresolves
    have hid := hy.sound.ids index actor hactor
    refine ⟨?_, fun event hevent => ?_⟩
    · rw [state_resolved]
      exact hy.sound.resolves hactor hresolves
    · rw [← List.mem_reverse, heard_resolved, List.mem_append, List.mem_reverse] at hevent
      obtain hold | hnew := hevent
      · exact hy.heard event hold
      · exact hresolves.addressable hy.sound hlevel (hid ▸ hactor) _ event hnew
  exact hmachine.performAll h

/-- The report of the coins that are left has a number of 64 bits as well. -/
theorem Addressable.emit_coinsUneaten (h : y.Addressable level) (hlevel : level.Addressable) :
    (y.emit watcher (.coinsUneaten y.state.world.coinsRemaining)).Addressable level :=
  ⟨h.sound, List.forall_mem_cons.mpr ⟨h.sound.world.coinsRemaining_lt hlevel, h.heard⟩⟩

theorem addressable_run (hlevel : level.Addressable) (h : x.Addressable level) (p : Program) :
    (run watcher p x).1.Addressable level := by
  have hperformed := addressable_performAll watcher hlevel h p.script
  have hends := ends_run watcher p x
  generalize run watcher p x = ended at hends
  cases hends with
  | solved y hy | malformed y hy | stopped y hy | failed y reason hy =>
      rw [hy] at hperformed
      exact hperformed
  | uneaten y hy =>
      rw [hy] at hperformed
      exact hperformed.emit_coinsUneaten hlevel

end Execution

/-- A reason that holds has numbers of 64 bits. -/
theorem FailureReason.Holds.addressable {level : Level} {state : RunState}
    {events : List RunEvent} {reason : FailureReason} (h : reason.Holds state events)
    (hsound : state.Sound level) (hlevel : level.Addressable) : reason.Addressable := by
  cases reason with
  | offGrid actor source =>
      obtain ⟨a, _, hactor, rfl, -, -⟩ := h
      exact ⟨hsound.index_lt hactor, hsound.addressable_actor hlevel hactor⟩
  | blocked actor p =>
      obtain ⟨a, _, group, hactor, -, -, hsource | hsource⟩ := h
      · exact ⟨hsound.index_lt hactor, hsound.world.addressable hlevel hsource⟩
      · exact ⟨hsound.index_lt hactor, hsound.world.addressable hlevel hsource⟩
  | struck actor p =>
      obtain ⟨a, hactor, rfl, -⟩ := h
      exact ⟨hsound.index_lt hactor, hsound.addressable_actor hlevel hactor⟩
  | coinsUneaten remaining =>
      obtain ⟨-, rfl⟩ := h
      exact hsound.world.coinsRemaining_lt hlevel

/-! ### Logs are read back -/

/-- The events and the outcome of a log of one JSON value a line. -/
def readLog (lines : List String) : Except Json.ReadError (List RunEvent × Outcome) := do
  let events ← lines.dropLast.mapM (readText Format.runEvent)
  let outcome ← readText Format.outcome (lines.getLast?.getD "")
  return (events, outcome)

theorem readText_runEvent {e : RunEvent} (h : e.Addressable) :
    readText Format.runEvent (Format.writeRunEvent e).compact = .ok e :=
  (Format.reads_runEvent h).readText (Json.spells_compact _)

theorem readText_outcome {o : Outcome} (h : o.Addressable) :
    readText Format.outcome (Format.writeOutcome o).compact = .ok o :=
  (Format.reads_outcome h).readText (Json.spells_compact _)

theorem readLog_jsonLog {events : List RunEvent} {outcome : Outcome}
    (hevents : ∀ e ∈ events, e.Addressable) (houtcome : outcome.Addressable) :
    readLog (jsonLog events outcome) = .ok (events, outcome) := by
  have hread : (events.map fun e => (Format.writeRunEvent e).compact).mapM
      (readText Format.runEvent) = .ok events := by
    induction events with
    | nil => rfl
    | cons e events ih =>
        rw [List.forall_mem_cons] at hevents
        rw [List.map_cons, List.mapM_cons, readText_runEvent hevents.1, ih hevents.2]
        rfl
  rw [readLog, jsonLog, List.dropLast_concat, hread, List.getLast?_concat]
  simp only [Option.getD_some, readText_outcome houtcome]
  rfl

/-- No value of a log breaks its line. -/
theorem newline_notMem_jsonLog {events : List RunEvent} {outcome : Outcome} :
    ∀ line ∈ jsonLog events outcome, '\n' ∉ line.toList := by
  intro line hline hbreak
  have hinline : Json.Inline line.toList := by
    simp only [jsonLog, List.mem_append, List.mem_map, List.mem_singleton] at hline
    obtain ⟨e, -, rfl⟩ | rfl := hline <;> exact Json.inline_compact _
  exact absurd (hinline '\n' hbreak) (by decide)

/-- What a command line prints that asks for the log of a run as JSON. -/
theorem output_run {s : Surroundings} {levelPath programPath : String} {level : Level}
    {p : Program} {outcome : Outcome}
    (hpuzzle : readPuzzle s.files levelPath programPath = .ok (level, p))
    (hresult : (start p level .silent).result = .ok outcome) :
    (answer ["run", levelPath, programPath, "--json"] s).output =
      jsonLog (start p level .silent).events outcome := by
  simp only [answer, Request.ofArgs, Request.answer, hpuzzle, hresult, if_true]

namespace Run

/-- The JSON log of a run loses nothing.  Every event and every outcome with numbers of
64 bits is read back from its text.  So the log of a run that reaches an outcome, one
value a line, is read back as the events of the run, in order, and the outcome; the
events take a board of the fresh level to the state in which the run ends; and this log
is what the command line prints. -/
theorem jsonLog_lossless {e : RunEvent} (he : e.Addressable) {o : Outcome} (ho : o.Addressable)
    {level : Level} (hlevel : level.Addressable) {p : Program} {outcome : Outcome}
    (hresult : (start p level .silent).result = .ok outcome) :
    readText Format.runEvent (Format.writeRunEvent e).compact = .ok e ∧
    readText Format.outcome (Format.writeOutcome o).compact = .ok o ∧
    let report := start p level .silent
    let lines := jsonLog report.events outcome
    (∀ line ∈ lines, '\n' ∉ line.toList) ∧
    readLog lines = .ok (report.events, outcome) ∧
    ((Board.ofState (RunState.ofLevel level)).replay report.events).shown = report.run.state ∧
    ∀ (s : Surroundings) (levelPath programPath : String),
      readPuzzle s.files levelPath programPath = .ok (level, p) →
        (answer ["run", levelPath, programPath, "--json"] s).output = lines := by
  refine ⟨readText_runEvent he, readText_outcome ho, newline_notMem_jsonLog, ?_, ?_,
    fun s levelPath programPath hpuzzle => output_run hpuzzle hresult⟩
  · have hfresh : (⟨RunState.ofLevel level, [], false⟩ : Execution).Addressable level :=
      ⟨RunState.sound_ofLevel level, fun _ h => nomatch h⟩
    have hrun : (Execution.run .silent p ⟨RunState.ofLevel level, [], false⟩).1.Addressable level :=
      Execution.addressable_run hlevel hfresh p
    have htrue : outcome.TrueOf (Execution.run .silent p ⟨RunState.ofLevel level, [], false⟩).1 :=
      Execution.trueOf_run (RunState.sound_ofLevel level) rfl p hresult
    refine readLog_jsonLog (fun event hevent => hrun.heard event (List.mem_reverse.mp hevent)) ?_
    cases outcome with
    | failure reason => exact (htrue.failure reason rfl).addressable hrun.sound hlevel
    | success | cancelled => trivial
  · have hfresh : (⟨RunState.ofLevel level, [], false⟩ : Execution).Mirrors (.ofLevel level) :=
      ⟨rfl, RunState.agrees_of_untoggled (by simp [RunState.Untoggled])⟩
    exact (Execution.mirrors_run (RunState.sound_ofLevel level) hfresh p).shown

/-- The doorway as its author draws it. -/
def sketch : Blueprint := { rows := [">1o"] }

/-- A working directory with the doorway and a program for it. -/
def doorwayFiles : FileTree :=
  ((FileTree.empty ["home"]).put ["home", "l"] (Format.writeBlueprint sketch).compact).put
    ["home", "p"] (programText .thereAndBack)

theorem resolve_doorwayFiles :
    doorwayFiles.resolve "l" = .ok (.file ["home", "l"] (Format.writeBlueprint sketch).compact) ∧
    doorwayFiles.resolve "p" = .ok (.file ["home", "p"] (programText .thereAndBack)) := by
  have hl : FileTree.names "l" = ["l"] := by
    rw [FileTree.names, String.splitOn, if_neg (by decide), String.splitOnAux, if_neg (by decide),
      if_neg (by decide), String.splitOnAux, if_pos (by decide)]
    rfl
  refine ⟨?_, ?_⟩
  · rw [FileTree.resolve, if_neg (by decide), if_neg (by decide), hl]
    rfl
  · rw [FileTree.resolve, if_neg (by decide), if_neg (by decide), FileTree.names_p]
    rfl

theorem readPuzzle_doorwayFiles : readPuzzle doorwayFiles "l" "p" = .ok (.doorway, .thereAndBack) := by
  obtain ⟨hl, hp⟩ := resolve_doorwayFiles
  have hlevel : loadLevel doorwayFiles "l" = .ok .doorway := by
    rw [loadLevel_of_text (b := sketch) (by rw [FileTree.read, hl]) (Json.spells_compact _)]
    rfl
  have hprogram : loadProgram doorwayFiles "p" = .ok .thereAndBack :=
    loadProgram_of_text (.built _) hp (Json.spells_pretty _)
  have hholds : doorwayFiles.holds "p" = true := by rw [FileTree.holds, hp]
  simp only [readPuzzle, hlevel, readProgram, hholds, if_true, hprogram]

theorem jsonLog_lossless_doorway :
    let lines := (answer ["run", "l", "p", "--json"]
      ⟨doorwayFiles, none, ⟨80, 24⟩, { waiting := [] }⟩).output
    let events : List RunEvent := [
      .actorAdvanced 0 ⟨0, 0⟩ ⟨0, 1⟩, .hazardsToggled (.single .red) ⟨true, false, false⟩,
      .actorTurned 0 .around .west, .actorAdvanced 0 ⟨0, 1⟩ ⟨0, 0⟩, .coinsUneaten 1]
    readLog lines = .ok (events, .failure (.coinsUneaten 1)) ∧
    ((Board.ofState (RunState.ofLevel .doorway)).replay events).shown =
      (start .thereAndBack .doorway .silent).run.state ∧
    readText Format.outcome
      (Format.writeOutcome (.failure (.offGrid 3 ⟨18446744073709551615, 0⟩))).compact =
        .ok (.failure (.offGrid 3 ⟨18446744073709551615, 0⟩)) := by
  intro lines events
  have hresult : (start .thereAndBack .doorway .silent).result =
      .ok (.failure (.coinsUneaten 1)) := by
    simp only [start, execute, Execution.run_script]
    decide +kernel
  have hevents : (start .thereAndBack .doorway .silent).events = events := by
    simp only [start, execute, Execution.run_script]
    decide +kernel
  have hevent : (RunEvent.coinsUneaten 1).Addressable := show 1 < wordLimit by decide
  have hlevel : Level.doorway.Addressable := show 1 * 3 < wordLimit by decide
  obtain ⟨-, houtcome, -, hread, hboard, houtput⟩ :=
    jsonLog_lossless hevent (o := .failure (.offGrid 3 ⟨18446744073709551615, 0⟩))
      ⟨by decide, by decide⟩ hlevel hresult
  have hlines : lines = jsonLog _ _ := houtput _ _ _ readPuzzle_doorwayFiles
  rw [hevents] at hread hboard hlines
  exact ⟨hlines ▸ hread, hboard, houtcome⟩

end Run

end Beamwalk
