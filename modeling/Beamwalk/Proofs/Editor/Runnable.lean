/-
Module: Beamwalk.Proofs.Editor.Runnable
Purpose: Which edits keep a program in a state in which it can be run.
Main exports: EditorState.loneMarker?, EditorState.check_perform, EditorState.keepsPairs,
  EditorState.check_foldl_perform, EditorState.edits_keep_runnable
-/
import Beamwalk.Proofs.Editor.Edits
import Beamwalk.Proofs.Program.Splicing
import Beamwalk.Proofs.Run.Verdict

namespace Beamwalk.EditorState

/-- The marker of a loop that an edit puts in or takes out without its partner. -/
def loneMarker? (s : EditorState) : Edit → Option Command
  | .insert command => if (s.insert command).2 && command.isMarker then some command else none
  | .deleteSelected => s.deleteSelected.2.filter Command.isMarker
  | .insertLoop _ | .clear | .moveCursor _ => none

/-- No edit of a history puts in or takes out a marker without its partner. -/
def keepsPairs : EditorState → List Edit → Bool
  | _, [] => true
  | s, e :: rest => (s.loneMarker? e).isNone && keepsPairs (s.perform e) rest

variable {s : EditorState} {e : Edit} {command : Command} {count : Count}

/-! ### One edit

The cursor may be anywhere, in any loop or behind the end of the program: it matters only
that an edit takes place between two parts of the program and leaves both as they are.
-/

theorem insert_of_made (made : (s.insert command).2 = true) :
    (s.insert command).1 = s.place command := by
  cases h : s.refuses command with
  | false => rw [insert_of_accepts h]
  | true =>
      rw [refused_insert.2 h] at made
      cases made

theorem insert_of_not_made (refused : (s.insert command).2 = false) :
    (s.insert command).1.program = s.program := by
  obtain ⟨status, hinsert⟩ := insert_of_refuses (refused_insert.1 refused)
  rw [hinsert]

/-- A command is placed between two parts of the program, and the cursor goes to it. -/
theorem place_between (s : EditorState) (command : Command) :
    ∃ front back, s.program.commands = front ++ back ∧
      (s.place command).program.commands = front ++ command :: back ∧
      (s.place command).cursor = front.length := by
  obtain ⟨front, back, hbefore, hlength, hafter⟩ :=
    s.program.exists_insert_between s.insertionIndex command
  have hsize : (s.program.insert s.insertionIndex command).size = s.program.size + 1 := by
    rw [← Program.length_commands, ← Program.length_commands, hafter, hbefore]
    simp only [List.length_append, List.length_cons]
    omega
  refine ⟨front, back, hbefore, hafter, ?_⟩
  rw [hlength, place]
  simp only [hsize, Nat.add_sub_cancel]

/-- The closer of a loop is placed right behind its opener. -/
theorem insertLoop_between (made : (s.insertLoop count).2 = true) :
    ∃ front back, s.program.commands = front ++ back ∧
      (s.insertLoop count).1.program.commands =
        front ++ ((Block.loop count .done .done).commands ++ back) := by
  have accepts : s.refuses (.loopStart count) = false := by
    rw [← Bool.not_eq_true, ← refused_insertLoop, made]
    exact nofun
  obtain ⟨front, back, hbefore, hopener, hcursor⟩ := s.place_between (.loopStart count)
  have hsplit : (s.place (.loopStart count)).program.commands =
      (front ++ [.loopStart count]) ++ back := by
    rw [hopener, List.append_assoc]
    rfl
  have hplace : (s.place (.loopStart count)).cursor + 1 =
      (front ++ [Command.loopStart count]).length := by
    rw [hcursor, List.length_append]
    rfl
  refine ⟨front, back, hbefore, ?_⟩
  rw [insertLoop_of_accepts accepts]
  simp only [hplace, Program.commands_insert_between hsplit, List.append_assoc]
  rfl

theorem deleteSelected_eq (s : EditorState) :
    s.deleteSelected.1.program = (s.program.remove s.cursor).1 ∧
      s.deleteSelected.2 = (s.program.remove s.cursor).2 := by
  unfold deleteSelected Program.remove
  cases s.program.steps[s.cursor]? <;> exact ⟨rfl, rfl⟩

theorem deleteSelected_of_none (nothing : s.deleteSelected.2 = none) : s.deleteSelected.1 = s := by
  unfold deleteSelected at nothing ⊢
  split
  · rfl
  · next hremove =>
      rw [hremove] at nothing
      cases nothing

theorem check_insert (balanced : s.program.check = .ok ()) (made : (s.insert command).2 = true) :
    (s.insert command).1.program.check = .ok () ↔ command.isMarker = false := by
  obtain ⟨front, back, hbefore, hafter, -⟩ := s.place_between command
  rw [insert_of_made made]
  exact Program.check_iff_of_put hbefore hafter balanced

theorem check_insertLoop (balanced : s.program.check = .ok ())
    (made : (s.insertLoop count).2 = true) : (s.insertLoop count).1.program.check = .ok () := by
  obtain ⟨front, back, hbefore, hafter⟩ := insertLoop_between made
  exact (Program.check_iff_of_block_between _ hbefore hafter).2 balanced

theorem check_deleteSelected (balanced : s.program.check = .ok ())
    (made : s.deleteSelected.2 = some command) :
    s.deleteSelected.1.program.check = .ok () ↔ command.isMarker = false := by
  obtain ⟨hprogram, htaken⟩ := s.deleteSelected_eq
  obtain ⟨front, back, hbefore, hafter⟩ := Program.exists_remove_between (htaken.symm.trans made)
  rw [hprogram]
  exact Program.check_iff_of_taken hbefore hafter balanced

/-- An edit unbalances a program exactly when it separates a marker from its partner. -/
theorem check_perform (balanced : s.program.check = .ok ()) (e : Edit) :
    (s.perform e).program.check = .ok () ↔ s.loneMarker? e = none := by
  cases e with
  | insert command =>
      cases made : (s.insert command).2 with
      | true =>
          rw [perform, check_insert balanced made]
          simp [loneMarker?, made]
      | false =>
          rw [perform, insert_of_not_made made]
          simp [loneMarker?, made, balanced]
  | insertLoop count =>
      cases made : (s.insertLoop count).2 with
      | true => exact ⟨fun _ => rfl, fun _ => check_insertLoop balanced made⟩
      | false =>
          obtain ⟨status, hinsert⟩ := insertLoop_of_refuses (refused_insertLoop.1 made)
          rw [perform, hinsert]
          exact ⟨fun _ => rfl, fun _ => balanced⟩
  | deleteSelected =>
      cases made : s.deleteSelected.2 with
      | some command =>
          rw [perform, check_deleteSelected balanced made]
          simp [loneMarker?, made]
      | none =>
          rw [perform, deleteSelected_of_none made]
          simp [loneMarker?, made, balanced]
  | clear => exact ⟨fun _ => rfl, fun _ => rfl⟩
  | moveCursor delta => exact ⟨fun _ => rfl, fun _ => balanced⟩

/-! ### Histories -/

/-- Edits that separate no marker from its partner keep a program balanced. -/
theorem check_foldl_perform (balanced : s.program.check = .ok ()) (edits : List Edit)
    (keeps : s.keepsPairs edits = true) : (edits.foldl perform s).program.check = .ok () := by
  induction edits generalizing s with
  | nil => exact balanced
  | cons e rest ih =>
      simp only [keepsPairs, Bool.and_eq_true, Option.isNone_iff_eq_none] at keeps
      apply ih
      · exact (check_perform balanced e).2 keeps.1
      · exact keeps.2

/-- A criterion for balance, told for both outcomes of the check. -/
theorem verdict_of_check_iff {p : Program}
    (hcheck : p.check = .ok () ↔ command.isMarker = false) :
    (command.isMarker = false → p.check = .ok ()) ∧
      (command.isMarker = true → ∃ error, p.check = .error error) := by
  refine ⟨hcheck.2, fun marker => ?_⟩
  cases hverdict : p.check with
  | error error => exact ⟨error, rfl⟩
  | ok _ =>
      rw [hcheck.1 hverdict] at marker
      cases marker

/-- Wherever the cursor is in a balanced program, the program stays balanced when a command
that is no marker of a loop is inserted or deleted, when a whole loop is inserted, when
everything is taken out and when the cursor moves; and it does not stay balanced when a
single marker is inserted or deleted.  So after any edits of the first kind it can be run:
the balance check finds nothing, and no run ends in an error of the program. -/
theorem edits_keep_runnable (s : EditorState) (balanced : s.program.check = .ok ()) :
    (∀ command, (s.insert command).2 = true →
      (command.isMarker = false → (s.insert command).1.program.check = .ok ()) ∧
      (command.isMarker = true →
        ∃ error, (s.insert command).1.program.check = .error error)) ∧
    (∀ count, (s.insertLoop count).2 = true → (s.insertLoop count).1.program.check = .ok ()) ∧
    (∀ command, s.deleteSelected.2 = some command →
      (command.isMarker = false → s.deleteSelected.1.program.check = .ok ()) ∧
      (command.isMarker = true →
        ∃ error, s.deleteSelected.1.program.check = .error error)) ∧
    s.clear.program.check = .ok () ∧
    (∀ delta, (s.moveCursor delta).program.check = .ok ()) ∧
    ∀ edits, s.keepsPairs edits = true →
      (edits.foldl perform s).program.check = .ok () ∧
      ∀ (run : Run) (watcher : Watcher),
        ∃ outcome, (run.execute (edits.foldl perform s).program watcher).result = .ok outcome := by
  refine ⟨fun command made => ?_, fun count => check_insertLoop balanced, fun command made => ?_,
    rfl, fun delta => balanced, fun edits keeps => ?_⟩
  · exact verdict_of_check_iff (check_insert balanced made)
  · exact verdict_of_check_iff (check_deleteSelected balanced made)
  · have hbalanced := check_foldl_perform balanced edits keeps
    exact ⟨hbalanced, Run.execute_balanced hbalanced⟩

/-- The opener of a loop is selected.  A loop inside the loop, a command in it and another
one that is taken out again leave the program in order; one marker of the loop alone, put
in or taken out, does not. -/
theorem edits_keep_runnable_corridor :
    let s := ofProgram .corridor (.ofCommands [.loopStart (.clamp 2), .advance, .loopEnd]) "p" {}
    let edits := [Edit.insertLoop (.clamp 3), .insert .jump, .moveCursor 2, .deleteSelected,
      .insert .uTurn]
    s.program.check = .ok () ∧
    (edits.foldl perform s).program.commands =
      [.loopStart (.clamp 2), .loopStart (.clamp 3), .jump, .loopEnd, .loopEnd, .uTurn] ∧
    (edits.foldl perform s).program.check = .ok () ∧
    (∃ error, (s.insert .loopEnd).1.program.check = .error error) ∧
    ∃ error, s.deleteSelected.1.program.check = .error error := by
  intro s edits
  have balanced : s.program.check = .ok () := rfl
  obtain ⟨hinsert, -, hdelete, -, -, hedits⟩ := edits_keep_runnable s balanced
  exact ⟨balanced, by decide, (hedits edits (by decide)).1, (hinsert .loopEnd rfl).2 rfl,
    (hdelete (.loopStart (.clamp 2)) (by decide)).2 rfl⟩

end Beamwalk.EditorState
