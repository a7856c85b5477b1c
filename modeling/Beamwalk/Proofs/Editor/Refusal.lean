/-
Module: Beamwalk.Proofs.Editor.Refusal
Purpose: What a session makes of a save that fails, and what it shows of it.
Main exports: Session.reply, Session.Refused, Session.editKey_of_refused,
  Session.warnedKey_of_refused, Session.dirty_of_warned, Session.screen_of_refused
-/
import Beamwalk.Proofs.Editor.Saving

namespace Beamwalk.Session

/-!
A program can be saved in two places: by the save key while it is edited, and by the same
key after the warning of unsaved changes.  A save that fails changes nothing but the
status line in both.  The two places differ in what becomes of the message: after the
warning the status line is cleared before the screen is drawn.
-/

/-- What is drawn at a moment. -/
def reply (s : Session) (m : Moment) : List DrawOp := ((s.facing m).step m.size m.key).2

/-- The key asks for a save, and the files refuse it. -/
structure Refused (s : Session) (m : Moment) (e : StorageError) : Prop where
  asked : s.asksToSave m.key = true
  failed : saveProgram m.files s.editor.path s.editor.program = .error e

variable {s : Session} {m : Moment} {size : TerminalSize} {key : Key} {e : StorageError}

/-! ### The two places -/

/-- While the program is edited, the failure is reported. -/
theorem editKey_of_refused (asked : s.editor.purpose? key = some .save)
    (failed : saveProgram s.files s.editor.path s.editor.program = .error e) :
    s.editKey size key = (s.withStatus (some (EditorState.saveFailed e))).redraw size := by
  simp only [editKey, EditorState.handleKey_of_purpose asked, EditorState.serve,
    EditorState.trySave_of_error failed]
  rfl

/-- After the warning, editing goes on and the failure is passed over. -/
theorem warnedKey_of_refused (stays : matchesBinding s.editor.config.keys.quit key = false)
    (asked : matchesBinding s.editor.config.keys.save key = true)
    (failed : saveProgram s.files s.editor.path s.editor.program = .error e) :
    s.warnedKey size key = ({ s with phase := .editing }.withStatus none).redraw size := by
  simp only [warnedKey, if_neg (ne_true_of_eq_false stays), if_pos asked, EditorState.save,
    failed]

namespace Refused

/-- A save is asked for in two places only. -/
theorem phase_cases (h : s.Refused m e) : s.phase = .editing ∨ s.phase = .warned := by
  have asked := h.asked
  unfold asksToSave at asked
  split at asked
  · next hphase => exact .inl hphase
  · next hphase => exact .inr hphase
  · cases asked
  · cases asked

/-- While the program is edited, the moment changes the status line and nothing else. -/
theorem step_of_editing (h : s.Refused m e) (hphase : s.phase = .editing) :
    (s.facing m).step m.size m.key =
      ((s.facing m).withStatus (some (EditorState.saveFailed e))).redraw m.size := by
  obtain ⟨asked, failed⟩ := h
  rw [asksToSave, hphase] at asked
  rw [step_editing (s := s.facing m) hphase]
  exact editKey_of_refused (s := s.facing m) (of_decide_eq_true asked) failed

/-- After the warning, the moment goes back to editing and clears the status line. -/
theorem step_of_warned (h : s.Refused m e) (hphase : s.phase = .warned) :
    (s.facing m).step m.size m.key =
      ({ s.facing m with phase := .editing }.withStatus none).redraw m.size := by
  obtain ⟨asked, failed⟩ := h
  rw [asksToSave, hphase] at asked
  simp only [Bool.and_eq_true, Bool.not_eq_true'] at asked
  rw [step_warned (s := s.facing m) hphase]
  exact warnedKey_of_refused (s := s.facing m) asked.1 asked.2 failed

end Refused

/-! ### The mark of changes -/

/-- Nobody is warned unless there are changes. -/
theorem dirty_of_warned (hphase : s.phase = .editing) {history : List Moment}
    (hwarned : (s.after history).phase = .warned) : (s.after history).editor.dirty = true := by
  obtain ⟨earlier, first, rfl, hediting, hquit, hdirty⟩ := (warned_after hphase history).1 hwarned
  have hwork := (quit_keeps ((s.after earlier).facing first) first.size).1
  rw [after_concat, meet_editing hediting,
    editKey_of_quit (s := (s.after earlier).facing first) hquit]
  exact (congrArg EditorState.Work.dirty hwork).trans hdirty

/-- A save that fails takes nothing away, whatever happened before it and whether the key
was pressed while the program was edited or after the warning: editing goes on with the
same work, and the files are as they were.  Either way one screen is drawn.  In the first
case its status line is the report of the failure.  In the second case, in which there
always are changes, it names the path, the changes and the caps and says nothing of the
failure. -/
theorem screen_of_refused (level : Level) (program : Program) (path : String) (config : Config)
    (files : FileTree) (keys : KeyQueue) (history : List Moment) (m : Moment) (e : StorageError)
    (h : ((ofEditor (.ofProgram level program path config) files keys).after history).Refused m e) :
    let s := (ofEditor (.ofProgram level program path config) files keys).after history
    (s.meet m).phase = .editing ∧ (s.meet m).editor.work = s.editor.work ∧
      (s.meet m).files = m.files ∧ s.reply m = (s.meet m).editor.draw m.size ∧
      (s.phase = .editing →
        Editor.statusText (s.meet m).editor = EditorState.saveFailed e) ∧
      (s.phase = .warned → s.editor.dirty = true ∧
        Editor.statusText (s.meet m).editor =
          s.editor.path ++ " [modified]" ++ "  ·  " ++ s.editor.budgetSummary) := by
  intro s
  rcases h.phase_cases with hphase | hphase
  · have hstep := h.step_of_editing hphase
    rw [meet, reply, hstep]
    refine ⟨hphase, rfl, rfl, rfl, fun _ => rfl, fun hwarned => ?_⟩
    rw [hphase] at hwarned
    cases hwarned
  · have hstep := h.step_of_warned hphase
    have hdirty : s.editor.dirty = true := dirty_of_warned rfl hphase
    rw [meet, reply, hstep]
    refine ⟨rfl, rfl, rfl, rfl, fun hediting => ?_, fun _ => ⟨hdirty, ?_⟩⟩
    · rw [hphase] at hediting
      cases hediting
    · show s.editor.path ++ (if s.editor.dirty then " [modified]" else "") ++ "  ·  " ++ _ = _
      rw [hdirty]
      rfl

/-- The save key while a directory has the name under which the program is to be saved. -/
def Moment.refusing : Moment := .pressing ⟨.char 's', { control := true }⟩ .crowded

theorem refused_refusing (asked : s.asksToSave Moment.refusing.key = true)
    (hpath : s.editor.path = "p") : s.Refused .refusing (.write "p" .isDirectory) :=
  ⟨asked, (saveProgram_crowded hpath _).trans (by rw [hpath])⟩

/-- A command is typed and cannot be saved.  The user is told so, but not after the
warning. -/
theorem screen_of_refused_crowded :
    let opened := ofEditor (.ofProgram .thrifty .empty "p" {}) .crowded ⟨[], []⟩
    let typed := [Moment.pressing ⟨.char 'f', {}⟩ .crowded]
    let warned := typed ++ [Moment.pressing ⟨.char 'q', {}⟩ .crowded]
    Editor.statusText ((opened.after typed).meet .refusing).editor =
        "Save failed: Failed to write p" ∧
      Editor.statusText ((opened.after warned).meet .refusing).editor =
        "p [modified]  ·  jumps left: 1  loops left: 1  turns left: ∞" ∧
      ((opened.after warned).meet .refusing).editor.work = ⟨.ofCommands [.advance], 0, true⟩ := by
  intro opened typed warned
  have hscreen (history : List Moment) (h : (opened.after history).Refused .refusing
      (.write "p" .isDirectory)) :=
    screen_of_refused .thrifty .empty "p" {} .crowded ⟨[], []⟩ history .refusing _ h
  obtain ⟨_, _, _, _, hreport, _⟩ := hscreen typed (refused_refusing (by decide) (by decide))
  obtain ⟨_, hwork, _, _, _, hsilence⟩ :=
    hscreen warned (refused_refusing (by decide) (by decide))
  refine ⟨(hreport (by decide)).trans (by decide), ?_, hwork.trans (by decide)⟩
  exact (hsilence (by decide)).2.trans (by decide)

/-- A failed save that is not reported. -/
theorem failed_save_unreported :
    let s := (ofEditor (.ofProgram .thrifty .empty "p" {}) .crowded ⟨[], []⟩).after
      [.pressing ⟨.char 'f', {}⟩ .crowded, .pressing ⟨.char 'q', {}⟩ .crowded]
    s.Refused .refusing (.write "p" .isDirectory) ∧
      Editor.statusText (s.meet .refusing).editor ≠
        EditorState.saveFailed (.write "p" .isDirectory) := by
  intro s
  have h : s.Refused .refusing (.write "p" .isDirectory) :=
    refused_refusing (by decide) (by decide)
  refine ⟨h, ?_⟩
  rw [meet, h.step_of_warned (by decide)]
  decide

end Beamwalk.Session
