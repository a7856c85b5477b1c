/-
Module: Beamwalk.Proofs.Editor.Edits
Purpose: What edits and keys do to the program under the editor's hands.
Main exports: EditorState.Edit, EditorState.perform, EditorState.Work, EditorState.refuses,
  EditorState.Follows, Purpose, EditorState.purpose?, EditorState.handleKey_of_purpose,
  EditorState.follows_handleKey
-/
import Beamwalk.Editor.Input

namespace Beamwalk

namespace EditorState

/-- The edits of a program that the editor offers. -/
inductive Edit where
  | insert (command : Command)
  | insertLoop (count : Count)
  | deleteSelected
  | clear
  | moveCursor (delta : Int)
deriving Repr, Inhabited, DecidableEq

/-- The state after an edit. -/
def perform (s : EditorState) : Edit → EditorState
  | .insert command => (s.insert command).1
  | .insertLoop count => (s.insertLoop count).1
  | .deleteSelected => s.deleteSelected.1
  | .clear => s.clear
  | .moveCursor delta => s.moveCursor delta

/-- What the user works on: the program, the selected command, and whether there is
something to save. -/
structure Work where
  program : Program
  cursor : Nat
  dirty : Bool
deriving Repr, Inhabited, DecidableEq

/-- The work in an editing session; the rest of it is the prompts and the settings. -/
def work (s : EditorState) : Work := ⟨s.program, s.cursor, s.dirty⟩

/-- What stays as long as the editor is open. -/
def frame (s : EditorState) : Level × String × Config := (s.level, s.path, s.config)

variable {s t : EditorState} {command : Command} {count : Count}

/-! ### Edits that are refused and edits that are made -/

/-- A command is refused if its class has a cap of which nothing is left. -/
def refuses (s : EditorState) (command : Command) : Bool := command.class?.any s.isExhausted

theorem insert_of_refuses (h : s.refuses command = true) :
    ∃ status, s.insert command = ({ s with status := status }, false) := by
  unfold refuses at h
  unfold insert
  cases hclass : command.class? with
  | none =>
      rw [hclass] at h
      cases h
  | some c =>
      have hempty : s.isExhausted c = true := by rwa [hclass] at h
      exact ⟨some (noneLeft c), if_pos hempty⟩

theorem insert_of_accepts (h : s.refuses command = false) :
    s.insert command = (s.place command, true) := by
  unfold refuses at h
  unfold insert
  cases hclass : command.class? with
  | none => rfl
  | some c =>
      have hleft : s.isExhausted c = false := by rwa [hclass] at h
      exact if_neg (by rw [hleft]; decide)

theorem insertLoop_of_refuses (h : s.refuses (.loopStart count) = true) :
    ∃ status, s.insertLoop count = ({ s with status := status }, false) := by
  obtain ⟨status, hinsert⟩ := insert_of_refuses h
  refine ⟨status, ?_⟩
  rw [insertLoop, hinsert]

theorem insertLoop_of_accepts (h : s.refuses (.loopStart count) = false) :
    s.insertLoop count =
      ({ s.place (.loopStart count) with
          program := (s.place (.loopStart count)).program.insert
            ((s.place (.loopStart count)).cursor + 1) .loopEnd }, true) := by
  rw [insertLoop, insert_of_accepts h]

theorem refused_insert : (s.insert command).2 = false ↔ s.refuses command = true := by
  cases h : s.refuses command with
  | true =>
      obtain ⟨status, hinsert⟩ := insert_of_refuses h
      simp [hinsert]
  | false => simp [insert_of_accepts h]

theorem refused_insertLoop :
    (s.insertLoop count).2 = false ↔ s.refuses (.loopStart count) = true := by
  cases h : s.refuses (.loopStart count) with
  | true =>
      obtain ⟨status, hinsert⟩ := insertLoop_of_refuses h
      simp [hinsert]
  | false => simp [insertLoop_of_accepts h]

/-- What an edit can come to.  Only a command that is accepted gets into the program, and
whatever changes the program marks the work as changed. -/
inductive Effect (s : EditorState) : EditorState → Prop where
  | kept (cursor : Nat) (status : Option String) :
      Effect s { s with cursor := cursor, status := status }
  | placed (command : Command) (accepted : s.refuses command = false) :
      Effect s (s.place command)
  | looped (count : Count) (accepted : s.refuses (.loopStart count) = false) (index : Nat) :
      Effect s { s.place (.loopStart count) with
        program := (s.place (.loopStart count)).program.insert index .loopEnd }
  | removed (index cursor : Nat) :
      Effect s { s with program := (s.program.remove index).1, cursor := cursor, dirty := true }
  | cleared : Effect s s.clear

theorem effect_perform (s : EditorState) (e : Edit) : s.Effect (s.perform e) := by
  cases e with
  | insert command =>
      cases h : s.refuses command with
      | true =>
          obtain ⟨status, hinsert⟩ := insert_of_refuses h
          rw [perform, hinsert]
          exact .kept s.cursor status
      | false =>
          rw [perform, insert_of_accepts h]
          exact .placed command h
  | insertLoop count =>
      cases h : s.refuses (.loopStart count) with
      | true =>
          obtain ⟨status, hinsert⟩ := insertLoop_of_refuses h
          rw [perform, hinsert]
          exact .kept s.cursor status
      | false =>
          rw [perform, insertLoop_of_accepts h]
          exact .looped count h _
  | deleteSelected =>
      rw [perform, deleteSelected]
      split
      · exact .kept s.cursor s.status
      · next program _ hremove =>
          have hprogram : program = (s.program.remove s.cursor).1 := by rw [hremove]
          rw [hprogram]
          exact .removed s.cursor _
  | clear => exact .cleared
  | moveCursor delta => exact .kept _ s.status

theorem Effect.frame_eq (h : s.Effect t) : t.frame = s.frame := by
  cases h <;> rfl

theorem Effect.dirty_or (h : s.Effect t) :
    t.dirty = true ∨ t.program = s.program ∧ t.dirty = s.dirty := by
  cases h with
  | kept => exact .inr ⟨rfl, rfl⟩
  | placed | looped | removed | cleared => exact .inl rfl

/-- From one state to another by at most one edit.  The prompts, which are not part of
the work, may be anything. -/
def Follows (s t : EditorState) : Prop :=
  t.frame = s.frame ∧ (t.work = s.work ∨ ∃ e, t.work = (s.perform e).work)

theorem Follows.idle (hframe : t.frame = s.frame) (hwork : t.work = s.work) : s.Follows t :=
  ⟨hframe, .inl hwork⟩

theorem Follows.edited {e : Edit} (hframe : t.frame = s.frame)
    (hwork : t.work = (s.perform e).work) : s.Follows t :=
  ⟨hframe, .inr ⟨e, hwork⟩⟩

end EditorState

/-! ### The purposes of keys -/

/-- What a key is good for while no prompt is open. -/
inductive Purpose where
  | quit
  | run
  | move (delta : Int)
  | save
  | delete
  | clear
  | askCount
  | insert (command : Command)
deriving Repr, Inhabited, DecidableEq

namespace Purpose

/-- The bindings in the order in which a key is held against them. -/
def table (keys : KeyBindings) : List (String × Purpose) :=
  [(keys.quit, .quit), (keys.run, .run), (keys.moveUp, .move (-1)), (keys.moveDown, .move 1),
    (keys.save, .save), (keys.delete, .delete), (keys.clear, .clear),
    (keys.insertLoop, .askCount)] ++
  (EditorState.commandKeys keys).map fun entry => (entry.1, .insert entry.2)

/-- The purpose of the first binding that a key answers to. -/
def ofKey? (keys : KeyBindings) (key : Key) : Option Purpose :=
  ((table keys).find? fun entry => matchesBinding entry.1 key).map Prod.snd

end Purpose

namespace EditorState

variable {s : EditorState} {files : FileTree} {key : Key}

/-- The purpose of a key in a state.  The prompts read keys in their own way, and the
key for the full screen is not for the bindings. -/
def purpose? (s : EditorState) (key : Key) : Option Purpose :=
  if key.code = .function 11 then none
  else
    match s.mode with
    | .normal => Purpose.ofKey? s.config.keys key
    | .repeatCount _ | .confirm _ _ => none

/-- What is done for a purpose. -/
def serve (s : EditorState) (files : FileTree) : Option Purpose → Handled
  | some .quit => ⟨s, .quit, files⟩
  | some .run => ⟨s, .run, files⟩
  | some (.move delta) => ⟨s.moveCursor delta, .redraw, files⟩
  | some .save => ⟨(s.trySave files).1, .redraw, (s.trySave files).2⟩
  | some .delete => ⟨s.deleteKey, .redraw, files⟩
  | some .clear => ⟨s.clearKey, .redraw, files⟩
  | some .askCount => ⟨{ s with mode := .repeatCount [], status := none }, .redraw, files⟩
  | some (.insert command) => ⟨(s.insert command).1, .redraw, files⟩
  | none => ⟨s, .nothing, files⟩

theorem serve_cons (entry : String × Purpose) (rest : List (String × Purpose)) :
    s.serve files (((entry :: rest).find? fun entry => matchesBinding entry.1 key).map Prod.snd) =
      if matchesBinding entry.1 key then s.serve files (some entry.2)
      else s.serve files ((rest.find? fun entry => matchesBinding entry.1 key).map Prod.snd) := by
  rw [List.find?_cons]
  cases matchesBinding entry.1 key <;> rfl

theorem find_inserts (keys : KeyBindings) :
    (((commandKeys keys).map fun entry => (entry.1, Purpose.insert entry.2)).find? fun entry =>
        matchesBinding entry.1 key).map Prod.snd = (commandOfKey? keys key).map .insert := by
  rw [List.find?_map, Option.map_map, commandOfKey?, Option.map_map]
  rfl

theorem serve_insert (s : EditorState) (files : FileTree) (command? : Option Command) :
    s.serve files (command?.map .insert) =
      match command? with
      | some command => ⟨(s.insert command).1, .redraw, files⟩
      | none => ⟨s, .nothing, files⟩ := by
  cases command? <;> rfl

/-- A key is served by the purpose that the table finds for it. -/
theorem handleNormal_eq (s : EditorState) (files : FileTree) (key : Key) :
    s.handleNormal files key = s.serve files (Purpose.ofKey? s.config.keys key) := by
  simp only [Purpose.ofKey?, Purpose.table, List.cons_append, List.nil_append, serve_cons,
    find_inserts, serve_insert]
  rfl

/-! ### What a key comes to -/

theorem handleKey_of_purpose {p : Purpose} (h : s.purpose? key = some p) :
    s.handleKey files key = s.serve files (some p) := by
  unfold purpose? at h
  split at h
  · cases h
  · next hcode =>
      rw [handleKey, if_neg hcode]
      cases hmode : s.mode with
      | normal =>
          rw [hmode] at h
          exact (s.handleNormal_eq files key).trans (congrArg _ h)
      | repeatCount _ | confirm _ _ =>
          rw [hmode] at h
          cases h

theorem work_insertLoop_mode (s : EditorState) (mode : Mode) (count : Count) :
    ({ s with mode := mode }.insertLoop count).1.work = (s.insertLoop count).1.work := by
  have hrefuses : { s with mode := mode }.refuses (.loopStart count) =
      s.refuses (.loopStart count) := rfl
  cases h : s.refuses (.loopStart count) with
  | true =>
      obtain ⟨_, hprompt⟩ := insertLoop_of_refuses (hrefuses.trans h)
      obtain ⟨_, hinsert⟩ := insertLoop_of_refuses h
      rw [hprompt, hinsert]
      rfl
  | false =>
      rw [insertLoop_of_accepts (hrefuses.trans h), insertLoop_of_accepts h]
      rfl

theorem follows_confirmCount (s : EditorState) (digits : List Char) :
    s.Follows (s.confirmCount digits) := by
  unfold confirmCount
  split
  · next count _ =>
      have hframe := ({ s with mode := .normal }.effect_perform (.insertLoop count)).frame_eq
      exact ⟨hframe, .inr ⟨.insertLoop count, s.work_insertLoop_mode .normal count⟩⟩
  · exact .idle rfl rfl

/-- What a key without a purpose may come to: at most one edit, no file is written, and
nobody wants to leave. -/
structure Answers (s : EditorState) (files : FileTree) (handled : Handled) : Prop where
  follows : s.Follows handled.state
  files_eq : handled.files = files
  stays : handled.action ≠ .quit

theorem Answers.idle {action : Action} (hframe : t.frame = s.frame) (hwork : t.work = s.work)
    (haction : action ≠ .quit) : s.Answers files ⟨t, action, files⟩ :=
  ⟨.idle hframe hwork, rfl, haction⟩

theorem answers_handleRepeatCount (s : EditorState) (files : FileTree) (digits : List Char)
    (key : Key) :
    s.Answers files
      ⟨(s.handleRepeatCount digits key).1, (s.handleRepeatCount digits key).2, files⟩ := by
  unfold handleRepeatCount
  dsimp only
  split
  · exact .idle rfl rfl nofun
  · split
    · exact ⟨s.follows_confirmCount digits, rfl, nofun⟩
    · cases key.code with
      | char c =>
          dsimp only
          split <;> exact .idle rfl rfl nofun
      | _ => exact .idle rfl rfl nofun

theorem answers_handleConfirm (s : EditorState) (files : FileTree) (question : Question)
    (selected : UInt64) (key : Key) :
    s.Answers files
      ⟨(s.handleConfirm question selected key).1, (s.handleConfirm question selected key).2,
        files⟩ := by
  unfold handleConfirm
  split
  · exact .idle rfl rfl nofun
  · cases key.code with
    | enter =>
        cases question with
        | clearProgram _ =>
            dsimp only
            split
            · exact ⟨⟨rfl, .inr ⟨.clear, rfl⟩⟩, rfl, nofun⟩
            · exact .idle rfl rfl nofun
    | _ => exact .idle rfl rfl nofun

theorem answers_of_no_purpose (files : FileTree) (h : s.purpose? key = none) :
    s.Answers files (s.handleKey files key) := by
  unfold purpose? at h
  unfold handleKey
  split at h
  · next hcode =>
      rw [if_pos hcode]
      exact .idle rfl rfl nofun
  · next hcode =>
      rw [if_neg hcode]
      cases hmode : s.mode with
      | normal =>
          rw [hmode] at h
          simp only [handleNormal_eq, h, serve]
          exact .idle rfl rfl nofun
      | repeatCount digits => exact s.answers_handleRepeatCount files digits key
      | confirm question selected => exact s.answers_handleConfirm files question selected key

theorem follows_deleteKey (s : EditorState) : s.Follows s.deleteKey := by
  have hedit : s.Follows s.deleteSelected.1 :=
    ⟨(s.effect_perform .deleteSelected).frame_eq, .inr ⟨.deleteSelected, rfl⟩⟩
  unfold deleteKey
  cases hdelete : s.deleteSelected with
  | mk t removed =>
      rw [hdelete] at hedit
      cases removed <;> exact hedit

theorem follows_clearKey (s : EditorState) : s.Follows s.clearKey := by
  unfold clearKey
  split <;> exact .idle rfl rfl

theorem follows_serve {p : Purpose} (h : p ≠ .save) : s.Follows (s.serve files (some p)).state ∧
    (s.serve files (some p)).files = files := by
  cases p with
  | quit | run | askCount => exact ⟨.idle rfl rfl, rfl⟩
  | move delta => exact ⟨⟨rfl, .inr ⟨.moveCursor delta, rfl⟩⟩, rfl⟩
  | save => exact absurd rfl h
  | delete => exact ⟨s.follows_deleteKey, rfl⟩
  | clear => exact ⟨s.follows_clearKey, rfl⟩
  | insert command =>
      exact ⟨⟨(s.effect_perform (.insert command)).frame_eq, .inr ⟨.insert command, rfl⟩⟩, rfl⟩

/-- A key that is not for saving leads to at most one edit and writes no file. -/
theorem follows_handleKey (files : FileTree) (h : s.purpose? key ≠ some .save) :
    s.Follows (s.handleKey files key).state ∧ (s.handleKey files key).files = files := by
  cases hp : s.purpose? key with
  | none =>
      have hanswers := answers_of_no_purpose files hp
      exact ⟨hanswers.follows, hanswers.files_eq⟩
  | some p =>
      rw [handleKey_of_purpose hp]
      exact follows_serve fun hsave => h (hp.trans (congrArg some hsave))

theorem action_handleKey :
    (s.handleKey files key).action = .quit ↔ s.purpose? key = some .quit := by
  cases hp : s.purpose? key with
  | none => simpa using (answers_of_no_purpose files hp).stays
  | some p =>
      rw [handleKey_of_purpose hp]
      cases p <;> simp [serve]

end EditorState

end Beamwalk
