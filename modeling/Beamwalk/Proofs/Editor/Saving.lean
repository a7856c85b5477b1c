/-
Module: Beamwalk.Proofs.Editor.Saving
Purpose: An editing session loses no changes without a word.
Main exports: Session.Moment, Session.after, Session.asksToSave, Session.saves, Session.kept,
  Session.meet_of_asks, Session.meet_of_not_asks, Session.phase_meet, Session.kept_after,
  Session.readKeys_after, Session.no_change_is_lost
-/
import Beamwalk.Editor.Session
import Beamwalk.Proofs.Editor.Budget
import Beamwalk.Proofs.Storage.Documents

namespace Beamwalk

namespace EditorState

variable {s : EditorState} {files saved : FileTree} {e : StorageError}

theorem trySave_of_ok (h : saveProgram files s.path s.program = .ok saved) :
    s.trySave files = ({ s with dirty := false, status := some "Saved" }, saved) := by
  rw [trySave, save, h]

theorem trySave_of_error (h : saveProgram files s.path s.program = .error e) :
    s.trySave files = ({ s with status := some (saveFailed e) }, files) := by
  rw [trySave, save, h]

end EditorState

namespace Session

/-!
Between two keys the world may change: the terminal gets another size, somebody else
writes to the files, more keys are typed.  A session is therefore taken through moments
that bring all of this along, so that any pattern of saves that work and saves that fail
can come about.
-/

/-- A key together with the terminal, the files and the keys behind it. -/
structure Moment where
  key : Key
  size : TerminalSize
  files : FileTree
  keys : KeyQueue
deriving Repr, DecidableEq

/-- The session as a moment finds it. -/
def facing (s : Session) (m : Moment) : Session := { s with files := m.files, keys := m.keys }

/-- The session after a moment. -/
def meet (s : Session) (m : Moment) : Session := ((s.facing m).step m.size m.key).1

/-- The session after a history. -/
def after (s : Session) (history : List Moment) : Session := history.foldl meet s

/-- A key asks for a save: the save key while nothing else is going on, or after the
warning. -/
def asksToSave (s : Session) (key : Key) : Bool :=
  match s.phase with
  | .editing => s.editor.purpose? key = some .save
  | .warned =>
      !matchesBinding s.editor.config.keys.quit key &&
        matchesBinding s.editor.config.keys.save key
  | .playing _ | .left => false

/-- The program is saved at a moment: the key asks for it, and the files take it. -/
def saves (s : Session) (m : Moment) : Bool :=
  s.asksToSave m.key && (saveProgram m.files s.editor.path s.editor.program).isOk

/-- The program as it was saved last, or `held` if it was not saved at all. -/
def kept (held : Program) : Session → List Moment → Program
  | _, [] => held
  | s, m :: rest => kept (if s.saves m then s.editor.program else held) (s.meet m) rest

variable {s : Session} {m : Moment} {size : TerminalSize} {key : Key} {files : FileTree}

/-! ### The work after a key -/

theorem play_keeps (s : Session) (size : TerminalSize) :
    (s.play size).1.editor.work = s.editor.work ∧ (s.play size).1.files = s.files := by
  unfold play
  dsimp only
  split
  · exact ⟨rfl, rfl⟩
  · split <;> exact ⟨rfl, rfl⟩

theorem quit_keeps (s : Session) (size : TerminalSize) :
    (s.quit size).1.editor.work = s.editor.work ∧ (s.quit size).1.files = s.files := by
  unfold quit
  split <;> exact ⟨rfl, rfl⟩

theorem editKey_keeps (s : Session) (size : TerminalSize) (key : Key) :
    (s.editKey size key).1.editor.work = (s.editor.handleKey s.files key).state.work ∧
      (s.editKey size key).1.files = (s.editor.handleKey s.files key).files := by
  unfold editKey
  dsimp only
  split
  · exact ⟨rfl, rfl⟩
  · exact ⟨rfl, rfl⟩
  · exact play_keeps _ size
  · exact ⟨rfl, rfl⟩
  · exact quit_keeps _ size

theorem playKey_keeps (s : Session) (size : TerminalSize) (playback : Playback) (key : Key) :
    (s.playKey size playback key).1.editor = s.editor ∧
      (s.playKey size playback key).1.files = s.files := by
  unfold playKey
  split <;> exact ⟨rfl, rfl⟩

theorem warnedKey_of_quit (h : matchesBinding s.editor.config.keys.quit key = true) :
    (s.warnedKey size key).1 = { s with phase := .left } := by
  rw [warnedKey, if_pos h]

/-- After the warning only the save key has anything done before the editing goes on. -/
theorem warnedKey_of_ne_quit (size : TerminalSize)
    (h : matchesBinding s.editor.config.keys.quit key = false) :
    let served := if matchesBinding s.editor.config.keys.save key then s.editor.trySave s.files
      else (s.editor, s.files)
    (s.warnedKey size key).1.phase = .editing ∧
      (s.warnedKey size key).1.editor.work = served.1.work ∧
      (s.warnedKey size key).1.files = served.2 := by
  intro served
  have hquit : ¬matchesBinding s.editor.config.keys.quit key = true := by
    rw [h]
    decide
  rw [warnedKey, if_neg hquit]
  by_cases hsave : matchesBinding s.editor.config.keys.save key = true
  · simp only [served, if_pos hsave, EditorState.trySave]
    cases s.editor.save s.files <;> exact ⟨rfl, rfl, rfl⟩
  · simp only [served, if_neg hsave]
    exact ⟨rfl, rfl, rfl⟩

/-! ### One moment -/

theorem step_editing (h : s.phase = .editing) : s.step size key = s.editKey size key := by
  rw [step, h]

theorem step_warned (h : s.phase = .warned) : s.step size key = s.warnedKey size key := by
  rw [step, h]

theorem meet_editing (h : s.phase = .editing) :
    s.meet m = ((s.facing m).editKey m.size m.key).1 :=
  congrArg Prod.fst (step_editing h)

theorem meet_warned (h : s.phase = .warned) :
    s.meet m = ((s.facing m).warnedKey m.size m.key).1 :=
  congrArg Prod.fst (step_warned h)

theorem meet_playing {playback : Playback} (h : s.phase = .playing playback) :
    s.meet m = ((s.facing m).playKey m.size playback m.key).1 := by
  have hphase : (s.facing m).phase = .playing playback := h
  rw [meet, step, hphase]

theorem meet_left (h : s.phase = .left) : s.meet m = s.facing m := by
  have hphase : (s.facing m).phase = .left := h
  rw [meet, step, hphase]

/-- A key that asks for a save does what the editor does to save. -/
theorem meet_of_asks (h : s.asksToSave m.key = true) :
    (s.meet m).editor.work = (s.editor.trySave m.files).1.work ∧
      (s.meet m).files = (s.editor.trySave m.files).2 := by
  unfold asksToSave at h
  split at h
  · next hphase =>
      have hpurpose : s.editor.purpose? m.key = some .save := of_decide_eq_true h
      obtain ⟨hwork, hfiles⟩ := (s.facing m).editKey_keeps m.size m.key
      rw [meet_editing hphase, hwork, hfiles]
      simp only [facing, EditorState.handleKey_of_purpose hpurpose]
      exact ⟨rfl, rfl⟩
  · next hphase =>
      simp only [Bool.and_eq_true, Bool.not_eq_true'] at h
      obtain ⟨hquit, hsave⟩ := h
      obtain ⟨-, hwork, hfiles⟩ :=
        warnedKey_of_ne_quit (s := s.facing m) m.size hquit
      rw [meet_warned hphase, hwork, hfiles]
      simp only [facing, hsave]
      exact ⟨rfl, rfl⟩
  · cases h
  · cases h

/-- Any other key leads to at most one edit and writes no file. -/
theorem meet_of_not_asks (h : s.asksToSave m.key = false) :
    (s.meet m).files = m.files ∧
      ((s.meet m).editor.work = s.editor.work ∨
        ∃ e, (s.meet m).editor.work = (s.editor.perform e).work) := by
  unfold asksToSave at h
  split at h
  · next hphase =>
      have hpurpose : s.editor.purpose? m.key ≠ some .save := of_decide_eq_false h
      obtain ⟨hwork, hfiles⟩ := (s.facing m).editKey_keeps m.size m.key
      obtain ⟨⟨-, hfollows⟩, hwritten⟩ :=
        EditorState.follows_handleKey m.files hpurpose
      rw [meet_editing hphase, hwork, hfiles]
      exact ⟨hwritten, hfollows⟩
  · next hphase =>
      rw [meet_warned hphase]
      cases hquit : matchesBinding s.editor.config.keys.quit m.key with
      | true =>
          rw [warnedKey_of_quit (s := s.facing m) hquit]
          exact ⟨rfl, .inl rfl⟩
      | false =>
          obtain ⟨-, hwork, hfiles⟩ :=
            warnedKey_of_ne_quit (s := s.facing m) m.size hquit
          have hsave : matchesBinding s.editor.config.keys.save m.key = false := by
            simpa [hquit] using h
          rw [hwork, hfiles]
          simp only [facing, hsave]
          exact ⟨rfl, .inl rfl⟩
  · next playback hphase =>
      obtain ⟨heditor, hfiles⟩ := (s.facing m).playKey_keeps m.size playback m.key
      rw [meet_playing hphase, heditor, hfiles]
      exact ⟨rfl, .inl rfl⟩
  · next hphase =>
      rw [meet_left hphase]
      exact ⟨rfl, .inl rfl⟩

/-- Files are written at the moments of saves and at no others. -/
theorem files_meet (s : Session) (m : Moment) :
    if s.saves m then saveProgram m.files s.editor.path s.editor.program = .ok (s.meet m).files
    else (s.meet m).files = m.files := by
  cases hask : s.asksToSave m.key with
  | false =>
      simp only [saves, hask]
      exact (meet_of_not_asks hask).1
  | true =>
      obtain ⟨-, hfiles⟩ := meet_of_asks hask
      cases hsave : saveProgram m.files s.editor.path s.editor.program with
      | ok saved =>
          simp only [saves, hask, hsave]
          rw [hfiles, EditorState.trySave_of_ok hsave]
          rfl
      | error e =>
          simp only [saves, hask, hsave]
          rw [hfiles, EditorState.trySave_of_error hsave]
          rfl

/-! ### Ways out -/

theorem play_stays (h : s.phase = .editing) :
    (s.play size).1.phase ≠ .left ∧ (s.play size).1.phase ≠ .warned := by
  have hstays : s.phase ≠ .left ∧ s.phase ≠ .warned := by
    rw [h]
    exact ⟨nofun, nofun⟩
  unfold play
  dsimp only
  split
  · exact hstays
  · split
    · exact hstays
    · exact ⟨nofun, nofun⟩

theorem editKey_of_quit (h : s.editor.purpose? key = some .quit) :
    s.editKey size key = s.quit size := by
  simp only [editKey, EditorState.handleKey_of_purpose h, EditorState.serve]

theorem editKey_stays (size : TerminalSize) (hphase : s.phase = .editing)
    (h : s.editor.purpose? key ≠ some .quit) :
    (s.editKey size key).1.phase ≠ .left ∧ (s.editKey size key).1.phase ≠ .warned := by
  have hstays : s.phase ≠ .left ∧ s.phase ≠ .warned := by
    rw [hphase]
    exact ⟨nofun, nofun⟩
  unfold editKey
  dsimp only
  split
  · exact hstays
  · exact hstays
  · exact play_stays hphase
  · exact hstays
  · next hquit => exact absurd (EditorState.action_handleKey.1 hquit) h

theorem quit_phase (s : Session) (size : TerminalSize) :
    (s.quit size).1.phase = if s.editor.dirty then .warned else .left := by
  unfold quit
  split <;> rfl

theorem playKey_stays {playback : Playback} :
    (s.playKey size playback key).1.phase ≠ .left ∧
      (s.playKey size playback key).1.phase ≠ .warned := by
  unfold playKey
  split <;> exact ⟨nofun, nofun⟩

/-- A session is left by the quit key, at once while there are no changes and else after
the warning; the warning is given when the quit key is pressed while there are changes. -/
theorem phase_meet (s : Session) (m : Moment) :
    ((s.meet m).phase = .left ↔ s.phase = .left ∨
      (s.phase = .editing ∧ s.editor.purpose? m.key = some .quit ∧ s.editor.dirty = false) ∨
        (s.phase = .warned ∧ matchesBinding s.editor.config.keys.quit m.key = true)) ∧
    ((s.meet m).phase = .warned ↔
      s.phase = .editing ∧ s.editor.purpose? m.key = some .quit ∧ s.editor.dirty = true) := by
  cases hphase : s.phase with
  | editing =>
      rw [meet_editing hphase]
      by_cases hquit : s.editor.purpose? m.key = some .quit
      · rw [editKey_of_quit (s := s.facing m) hquit, quit_phase]
        cases hdirty : s.editor.dirty <;> simp [facing, hquit, hdirty]
      · simp [editKey_stays (s := s.facing m) m.size hphase hquit, hquit]
  | warned =>
      rw [meet_warned hphase]
      cases hquit : matchesBinding s.editor.config.keys.quit m.key with
      | true => simp [warnedKey_of_quit (s := s.facing m) hquit]
      | false => simp [warnedKey_of_ne_quit (s := s.facing m) m.size hquit]
  | playing playback =>
      rw [meet_playing hphase]
      simp [playKey_stays]
  | left =>
      rw [meet_left hphase]
      simp [facing, hphase]

/-! ### Histories -/

theorem after_concat (s : Session) (history : List Moment) (m : Moment) :
    s.after (history ++ [m]) = (s.after history).meet m := by
  rw [after, List.foldl_append]
  rfl

/-- Where a session that was opened for editing stands at the warning, the quit key has just
been pressed with changes at hand. -/
theorem warned_after (hphase : s.phase = .editing) (history : List Moment) :
    (s.after history).phase = .warned ↔ ∃ earlier first, history = earlier ++ [first] ∧
      (s.after earlier).phase = .editing ∧
      (s.after earlier).editor.purpose? first.key = some .quit ∧
      (s.after earlier).editor.dirty = true := by
  rcases List.eq_nil_or_concat history with rfl | ⟨earlier, first, rfl⟩
  · simp [after, hphase]
  · rw [List.concat_eq_append, after_concat, (phase_meet _ first).2]
    constructor
    · intro h
      exact ⟨earlier, first, rfl, h⟩
    · rintro ⟨earlier', first', heq, h⟩
      obtain ⟨rfl, hfirst⟩ := List.append_inj' heq rfl
      cases hfirst
      exact h

/-- What is kept after a moment is the program, as long as nothing marks it as changed. -/
theorem clean_meet {held : Program} (hheld : s.editor.dirty = false → s.editor.program = held)
    (m : Moment) (hclean : (s.meet m).editor.dirty = false) :
    (s.meet m).editor.program = if s.saves m then s.editor.program else held := by
  have hsame (hwork : (s.meet m).editor.work = s.editor.work) :
      (s.meet m).editor.program = held := by
    have hdirty : (s.meet m).editor.dirty = s.editor.dirty := congrArg EditorState.Work.dirty hwork
    exact (congrArg EditorState.Work.program hwork).trans (hheld (hdirty.symm.trans hclean))
  cases hask : s.asksToSave m.key with
  | true =>
      obtain ⟨hwork, -⟩ := meet_of_asks hask
      cases hsave : saveProgram m.files s.editor.path s.editor.program with
      | ok saved =>
          rw [EditorState.trySave_of_ok hsave] at hwork
          simp only [saves, hask, hsave]
          exact congrArg EditorState.Work.program hwork
      | error e =>
          rw [EditorState.trySave_of_error hsave] at hwork
          simp only [saves, hask, hsave]
          exact hsame hwork
  | false =>
      simp only [saves, hask]
      obtain ⟨-, hwork | ⟨e, hwork⟩⟩ := meet_of_not_asks hask
      · exact hsame hwork
      · have hdirty : (s.meet m).editor.dirty = (s.editor.perform e).dirty :=
          congrArg EditorState.Work.dirty hwork
        rcases (s.editor.effect_perform e).dirty_or with hmarked | ⟨hprogram, hmark⟩
        · rw [hdirty, hmarked] at hclean
          cases hclean
        · have hprogram' : (s.meet m).editor.program = (s.editor.perform e).program :=
            congrArg EditorState.Work.program hwork
          have hbefore : s.editor.dirty = false := hmark.symm.trans (hdirty.symm.trans hclean)
          exact hprogram'.trans (hprogram.trans (hheld hbefore))

/-- While the mark of changes is off, the program is the one that is kept. -/
theorem kept_after {held : Program} (history : List Moment)
    (hheld : s.editor.dirty = false → s.editor.program = held)
    (hclean : (s.after history).editor.dirty = false) :
    (s.after history).editor.program = s.kept held history := by
  induction history generalizing s held with
  | nil => exact hheld hclean
  | cons m rest ih =>
      rw [kept]
      exact ih (clean_meet hheld m) hclean

/-- Reading keys takes a session through a history. -/
theorem readKeys_after (size : TerminalSize) (budget : Nat) (s : Session) :
    ∃ history, (readKeys size budget s).1 = s.after history := by
  induction budget generalizing s with
  | zero => exact ⟨[], rfl⟩
  | succ budget ih =>
      unfold readKeys
      split
      · exact ⟨[], rfl⟩
      · exact ⟨[], rfl⟩
      · next key waiting _ _ =>
          let m : Moment := ⟨key, size, s.files, { s.keys with waiting := waiting }⟩
          obtain ⟨rest, hrest⟩ := ih (s.meet m)
          exact ⟨m :: rest, hrest⟩

/-- A session loses no changes without a word, whatever keys are pressed and whichever
saves the files refuse.  While the mark of changes is off, the program is the one that was
opened or that was written last; a save that fails leaves program, cursor and mark; and
the session is left by the quit key only, either while the mark is off or by the key right
after the quit key that gave the warning.  The keys that wait are read in this way. -/
theorem no_change_is_lost (level : Level) (program : Program) (path : String) (config : Config)
    (files : FileTree) (keys : KeyQueue) (history : List Moment) :
    let opened := ofEditor (.ofProgram level program path config) files keys
    let s := opened.after history
    (s.editor.dirty = false → s.editor.program = opened.kept program history) ∧
    (∀ m, if s.saves m then
        saveProgram m.files s.editor.path s.editor.program = .ok (s.meet m).files
      else (s.meet m).files = m.files) ∧
    (∀ m e, s.asksToSave m.key = true →
      saveProgram m.files s.editor.path s.editor.program = .error e →
      (s.meet m).editor.work = s.editor.work) ∧
    (∀ m, s.phase ≠ .left → ((s.meet m).phase = .left ↔
      (s.phase = .editing ∧ s.editor.purpose? m.key = some .quit ∧ s.editor.dirty = false) ∨
      (matchesBinding s.editor.config.keys.quit m.key = true ∧
        ∃ earlier first, history = earlier ++ [first] ∧
          (opened.after earlier).phase = .editing ∧
          (opened.after earlier).editor.purpose? first.key = some .quit ∧
          (opened.after earlier).editor.dirty = true))) ∧
    ∀ size budget, ∃ moments, (readKeys size budget opened).1 = opened.after moments := by
  intro opened s
  refine ⟨kept_after history fun _ => rfl, files_meet s, ?_, ?_,
    fun size budget => readKeys_after size budget opened⟩
  · intro m e hask hsave
    obtain ⟨hwork, -⟩ := meet_of_asks hask
    rw [hwork, EditorState.trySave_of_error hsave]
    rfl
  · intro m hopen
    rw [(s.phase_meet m).1, ← warned_after (s := opened) rfl history]
    simp only [hopen, false_or]
    rw [and_comm (a := (opened.after history).phase = .warned)]

end Session

/-- Files among which a directory has the name under which a program is to be saved. -/
def FileTree.crowded : FileTree := ⟨["home"], [(["home", "p", "notes"], "")]⟩

theorem saveProgram_crowded {path : String} (hpath : path = "p") (p : Program) :
    saveProgram .crowded path p = .error (.write path .isDirectory) := by
  have hresolve : FileTree.crowded.resolve path = .ok .directory := by
    subst hpath
    rw [FileTree.resolve, if_neg (by decide), if_neg (by decide), FileTree.names_p]
    rfl
  rw [saveProgram, FileTree.write, hresolve]

namespace Session

/-- A key at a terminal of the usual size. -/
def Moment.pressing (key : Key) (files : FileTree) : Moment := ⟨key, ⟨80, 24⟩, files, ⟨[], []⟩⟩

/-- A command is typed.  A save is refused, the next one works; or the user leaves without
saving, which takes the quit key twice. -/
theorem no_change_is_lost_thrifty :
    let opened := ofEditor (.ofProgram .thrifty .empty "p" {}) .crowded ⟨[], []⟩
    let typed := [Moment.pressing ⟨.char 'f', {}⟩ .crowded]
    let refused := Moment.pressing ⟨.char 's', { control := true }⟩ .crowded
    let granted := Moment.pressing ⟨.char 's', { control := true }⟩ .desk
    let quit := Moment.pressing ⟨.char 'q', {}⟩ .desk
    ((opened.after typed).meet refused).editor.work = ⟨.ofCommands [.advance], 0, true⟩ ∧
    (opened.after (typed ++ [granted])).editor.work = ⟨.ofCommands [.advance], 0, false⟩ ∧
    opened.kept .empty (typed ++ [granted]) = .ofCommands [.advance] ∧
    (opened.meet quit).phase = .left ∧
    ((opened.after (typed ++ [quit])).meet quit).phase = .left := by
  intro opened typed refused granted quit
  have hlost (history : List Moment) :=
    no_change_is_lost .thrifty .empty "p" {} .crowded ⟨[], []⟩ history
  obtain ⟨_, _, hfailed, _⟩ := hlost typed
  obtain ⟨hkept, _⟩ := hlost (typed ++ [granted])
  obtain ⟨_, _, _, hleave, _⟩ := hlost []
  obtain ⟨_, _, _, hinsist, _⟩ := hlost (typed ++ [quit])
  have htyped : (opened.after typed).editor.work = ⟨.ofCommands [.advance], 0, true⟩ := by decide
  have hpath : (opened.after typed).editor.path = "p" := by decide
  obtain ⟨saved, hsaved⟩ : ∃ saved, saveProgram granted.files (opened.after typed).editor.path
      (opened.after typed).editor.program = .ok saved := by
    rw [hpath]
    exact exists_saveProgram_iff.mpr ⟨_, FileTree.resolve_desk, nofun⟩
  have hwork : (opened.after (typed ++ [granted])).editor.work =
      ⟨.ofCommands [.advance], 0, false⟩ := by
    have hmeet := (meet_of_asks (s := opened.after typed) (m := granted) (by decide)).1
    rw [after_concat, hmeet, EditorState.trySave_of_ok hsaved]
    exact congrArg (fun work => { work with dirty := false }) htyped
  have hsame := hfailed refused _ (by decide) (saveProgram_crowded (by decide) _)
  refine ⟨hsame.trans htyped, hwork, ?_, ?_, ?_⟩
  · have hclean := congrArg EditorState.Work.dirty hwork
    exact (hkept hclean).symm.trans (congrArg EditorState.Work.program hwork)
  · exact (hleave quit (by decide)).2 (.inl ⟨by decide, by decide, by decide⟩)
  · exact (hinsist quit (by decide)).2
      (.inr ⟨by decide, typed, quit, rfl, by decide, by decide, by decide⟩)

end Session

end Beamwalk
