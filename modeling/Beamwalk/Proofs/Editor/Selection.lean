/-
Module: Beamwalk.Proofs.Editor.Selection
Purpose: The editor holds a list of commands, one of which is selected.
Main exports: Selection, Selection.insert, Selection.insertLoop, Selection.delete,
  Selection.move, EditorState.Shows, EditorState.Shows.perform, EditorState.exists_shows,
  EditorState.edits_selection
-/
import Mathlib.Logic.Function.Iterate
import Beamwalk.Proofs.Editor.Budget

namespace Beamwalk

/-!
The editor keeps the selected command as an index into the program.  Here a list with a
selection is what it is to the user: the commands above the selected one, that command,
and the commands below it.  An index cannot point past the end of such a list, and what
an edit leaves alone stays where it is by the form of the definitions.
-/

/-- Commands of which one is selected, unless there are none.  Those above the selected
one are given from the nearest to the first. -/
inductive Selection where
  | empty
  | on (above : List Command) (selected : Command) (below : List Command)
deriving Repr, Inhabited, DecidableEq

namespace Selection

/-- All commands in order. -/
def commands : Selection → List Command
  | .empty => []
  | .on above selected below => above.reverse ++ selected :: below

/-- The index of the selected command; zero if there is none. -/
def index : Selection → Nat
  | .empty => 0
  | .on above _ _ => above.length

/-- The selected command. -/
def selected? : Selection → Option Command
  | .empty => none
  | .on _ selected _ => some selected

/-- Commands of which the first one is selected. -/
def atFirst : List Command → Selection
  | [] => .empty
  | first :: rest => .on [] first rest

/-- Put a command right below the selected one and select it. -/
def insert (command : Command) : Selection → Selection
  | .empty => .on [] command []
  | .on above selected below => .on (selected :: above) command below

/-- Put an opener right below the selected command and a closer right below the opener,
and select the opener. -/
def insertLoop (count : Count) : Selection → Selection
  | .empty => .on [] (.loopStart count) [.loopEnd]
  | .on above selected below => .on (selected :: above) (.loopStart count) (.loopEnd :: below)

/-- Take the selected command out.  The next one is selected, or the one above if the
last one was taken out. -/
def delete : Selection → Selection
  | .on above _ (next :: below) => .on above next below
  | .on (previous :: above) _ [] => .on above previous []
  | .on [] _ [] | .empty => .empty

/-- Select the command above, if there is one. -/
def up : Selection → Selection
  | .on (previous :: above) selected below => .on above previous (selected :: below)
  | selection => selection

/-- Select the command below, if there is one. -/
def down : Selection → Selection
  | .on above selected (next :: below) => .on (selected :: above) next below
  | selection => selection

/-- Go down a number of commands, or up if the number is negative. -/
def move (selection : Selection) : Int → Selection
  | .ofNat n => down^[n] selection
  | .negSucc n => up^[n + 1] selection

variable {selection : Selection} {above below : List Command} {selected : Command}

@[simp] theorem commands_atFirst (commands : List Command) :
    (atFirst commands).commands = commands := by
  cases commands <;> rfl

@[simp] theorem index_atFirst (commands : List Command) : (atFirst commands).index = 0 := by
  cases commands <;> rfl

/-- The selected command may be counted to those above it. -/
theorem commands_on :
    (on above selected below).commands = (selected :: above).reverse ++ below := by
  simp [commands]

theorem length_commands_on :
    (on above selected below).commands.length = above.length + below.length + 1 := by
  simp [commands]
  omega

theorem index_le (selection : Selection) : selection.index ≤ selection.commands.length - 1 := by
  cases selection with
  | empty => exact Nat.le_refl _
  | on above selected below =>
      rw [length_commands_on]
      exact Nat.le_add_right _ _

/-- A selection is known by its commands and its index. -/
theorem ext_index {selection other : Selection} (hcommands : selection.commands = other.commands)
    (hindex : selection.index = other.index) : selection = other := by
  cases selection with
  | empty =>
      cases other with
      | empty => rfl
      | on above selected below => simp [commands] at hcommands
  | on above selected below =>
      cases other with
      | empty => simp [commands] at hcommands
      | on above' selected' below' =>
          have hlength : above.reverse.length = above'.reverse.length := by
            simpa [index] using hindex
          obtain ⟨habove, hbelow⟩ := List.append_inj hcommands hlength
          obtain ⟨rfl, rfl⟩ := List.cons.inj hbelow
          rw [List.reverse_inj.1 habove]

/-! ### Moving the selection -/

@[simp] theorem commands_up (selection : Selection) :
    selection.up.commands = selection.commands := by
  rcases selection with _ | ⟨_ | ⟨previous, above⟩, selected, below⟩
  · rfl
  · rfl
  · exact commands_on

theorem index_up (selection : Selection) : selection.up.index = selection.index - 1 := by
  rcases selection with _ | ⟨_ | ⟨previous, above⟩, selected, below⟩ <;> rfl

@[simp] theorem commands_down (selection : Selection) :
    selection.down.commands = selection.commands := by
  rcases selection with _ | ⟨above, selected, _ | ⟨next, below⟩⟩
  · rfl
  · rfl
  · exact commands_on.symm

theorem index_down (selection : Selection) :
    selection.down.index = min (selection.index + 1) (selection.commands.length - 1) := by
  rcases selection with _ | ⟨above, selected, _ | ⟨next, below⟩⟩
  · rfl
  · simp [down, index, length_commands_on]
  · simp [down, index, length_commands_on]

theorem commands_ups (n : Nat) (selection : Selection) :
    (up^[n] selection).commands = selection.commands := by
  induction n generalizing selection with
  | zero => rfl
  | succ n ih => rw [Function.iterate_succ_apply, ih, commands_up]

theorem index_ups (n : Nat) (selection : Selection) :
    (up^[n] selection).index = selection.index - n := by
  induction n generalizing selection with
  | zero => rfl
  | succ n ih =>
      rw [Function.iterate_succ_apply, ih, index_up]
      omega

theorem commands_downs (n : Nat) (selection : Selection) :
    (down^[n] selection).commands = selection.commands := by
  induction n generalizing selection with
  | zero => rfl
  | succ n ih => rw [Function.iterate_succ_apply, ih, commands_down]

theorem index_downs (n : Nat) (selection : Selection) :
    (down^[n] selection).index = min (selection.index + n) (selection.commands.length - 1) := by
  induction n generalizing selection with
  | zero => exact (Nat.min_eq_left selection.index_le).symm
  | succ n ih =>
      rw [Function.iterate_succ_apply, ih, index_down, commands_down]
      omega

@[simp] theorem commands_move (selection : Selection) (delta : Int) :
    (selection.move delta).commands = selection.commands := by
  cases delta with
  | ofNat n => exact commands_downs n selection
  | negSucc n => exact commands_ups (n + 1) selection

/-- Moving by a number adds it to the index, within the bounds. -/
theorem index_move (selection : Selection) (delta : Int) :
    (selection.move delta).index =
      min ((selection.index : Int) + delta).toNat (selection.commands.length - 1) := by
  have hle := selection.index_le
  cases delta with
  | ofNat n =>
      rw [move, index_downs]
      congr 1
  | negSucc n =>
      rw [move, index_ups]
      omega

end Selection

namespace EditorState

variable {s : EditorState} {selection : Selection} {command : Command} {count : Count}
  {above below : List Command} {selected : Command}

/-- The program consists of the commands, and the cursor points at the selected one. -/
structure Shows (s : EditorState) (selection : Selection) : Prop where
  commands_eq : s.program.commands = selection.commands
  cursor_eq : s.cursor = selection.index

theorem shows_ofProgram (level : Level) (program : Program) (path : String) (config : Config) :
    (ofProgram level program path config).Shows (.atFirst program.commands) :=
  ⟨(Selection.commands_atFirst _).symm, (Selection.index_atFirst _).symm⟩

/-- Where a command is placed and where the cursor is then. -/
theorem place_at {index : Nat} (hindex : s.insertionIndex = index) (command : Command) :
    (s.place command).program = s.program.insert index command ∧
      (s.place command).cursor = min index ((s.program.insert index command).size - 1) := by
  rw [place, hindex]
  exact ⟨rfl, rfl⟩

namespace Shows

theorem size_eq (h : s.Shows selection) : s.program.size = selection.commands.length := by
  rw [← Program.length_commands, h.commands_eq]

/-- The cursor is the index of a command, or zero if there is none. -/
theorem cursor_valid (h : s.Shows selection) :
    s.cursor < s.program.size ∨ s.program.size = 0 ∧ s.cursor = 0 := by
  rw [h.size_eq, h.cursor_eq]
  cases selection with
  | empty => exact .inr ⟨rfl, rfl⟩
  | on above selected below =>
      refine .inl ?_
      rw [Selection.length_commands_on, Selection.index]
      omega

/-- An editor shows one selection only. -/
theorem unique {other : Selection} (h : s.Shows selection) (h' : s.Shows other) :
    other = selection :=
  Selection.ext_index (h'.commands_eq.symm.trans h.commands_eq)
    (h'.cursor_eq.symm.trans h.cursor_eq)

/-- Nothing else of an editor counts for what it shows. -/
theorem of_same {t : EditorState} (h : s.Shows selection) (hprogram : t.program = s.program)
    (hcursor : t.cursor = s.cursor) : t.Shows selection :=
  ⟨(congrArg Program.commands hprogram).trans h.commands_eq, hcursor.trans h.cursor_eq⟩

/-- What the program is with a command right below the selected one. -/
theorem insert_below (h : s.Shows (.on above selected below)) (command : Command) :
    (s.program.insert (s.cursor + 1) command).commands =
      (selected :: above).reverse ++ command :: below := by
  have hplace : s.cursor + 1 = (selected :: above).reverse.length := by
    rw [h.cursor_eq, List.length_reverse]
    rfl
  rw [hplace]
  exact Program.commands_insert_between (h.commands_eq.trans Selection.commands_on)

theorem isEmpty_eq (h : s.Shows selection) : s.program.isEmpty = selection.commands.isEmpty := by
  rw [← h.commands_eq]
  exact (List.isEmpty_map ..).symm

theorem insertionIndex_of_on (h : s.Shows (.on above selected below)) :
    s.insertionIndex = s.cursor + 1 := by
  have hempty : s.program.isEmpty = false := by
    rw [h.isEmpty_eq, Selection.commands_on]
    simp
  rw [insertionIndex, hempty]
  rfl

/-! ### The edits -/

theorem place (h : s.Shows selection) (command : Command) :
    (s.place command).Shows (selection.insert command) := by
  cases selection with
  | empty =>
      have hnone : s.program.commands = [] ++ [] := h.commands_eq
      obtain ⟨hprogram, hcursor⟩ := place_at (if_pos h.isEmpty_eq) command
      refine ⟨?_, hcursor.trans (Nat.zero_min _)⟩
      rw [hprogram]
      exact Program.commands_insert_between hnone
  | on above selected below =>
      obtain ⟨hprogram, hcursor⟩ := place_at h.insertionIndex_of_on command
      have hcommands := h.insert_below command
      have hsize : (s.program.insert (s.cursor + 1) command).size =
          above.length + below.length + 2 := by
        rw [← Program.length_commands, hcommands]
        simp
        omega
      refine ⟨?_, ?_⟩
      · rw [hprogram]
        exact hcommands
      · rw [hcursor, hsize, h.cursor_eq, Selection.insert, Selection.index, Selection.index,
          List.length_cons]
        omega

theorem placeLoop (h : s.Shows selection) (count : Count) :
    EditorState.Shows { s.place (.loopStart count) with
        program := (s.place (.loopStart count)).program.insert
          ((s.place (.loopStart count)).cursor + 1) .loopEnd }
      (selection.insertLoop count) := by
  have hplaced := h.place (.loopStart count)
  cases selection with
  | empty => exact ⟨hplaced.insert_below .loopEnd, hplaced.cursor_eq⟩
  | on above selected below =>
      exact ⟨(hplaced.insert_below .loopEnd).trans Selection.commands_on.symm, hplaced.cursor_eq⟩

theorem insert (h : s.Shows selection) (command : Command) :
    (s.insert command).1.Shows
      (if (s.insert command).2 then selection.insert command else selection) := by
  cases hrefuses : s.refuses command with
  | true =>
      obtain ⟨status, hinsert⟩ := insert_of_refuses hrefuses
      rw [hinsert]
      exact h.of_same rfl rfl
  | false =>
      rw [insert_of_accepts hrefuses]
      exact h.place command

theorem insertLoop (h : s.Shows selection) (count : Count) :
    (s.insertLoop count).1.Shows
      (if (s.insertLoop count).2 then selection.insertLoop count else selection) := by
  cases hrefuses : s.refuses (.loopStart count) with
  | true =>
      obtain ⟨status, hinsert⟩ := insertLoop_of_refuses hrefuses
      rw [hinsert]
      exact h.of_same rfl rfl
  | false =>
      rw [insertLoop_of_accepts hrefuses]
      exact h.placeLoop count

theorem deleteSelected_of_empty (h : s.Shows .empty) : s.deleteSelected = (s, none) := by
  have hgone : (s.program.remove s.cursor).2 = none := by
    rw [Program.removed_remove, h.commands_eq]
    rfl
  unfold deleteSelected
  split
  · rfl
  · next hremove =>
      rw [hremove] at hgone
      cases hgone

theorem deleteSelected_of_on (h : s.Shows (.on above selected below)) :
    s.deleteSelected.2 = some selected ∧
      s.deleteSelected.1.program.commands = above.reverse ++ below ∧
      s.deleteSelected.1.cursor = min above.length (above.length + below.length - 1) := by
  have hplace : s.cursor = above.reverse.length := by
    rw [h.cursor_eq, List.length_reverse]
    rfl
  obtain ⟨hcommands, hgone⟩ := Program.commands_remove_between h.commands_eq
  rw [← hplace] at hcommands hgone
  unfold deleteSelected
  split
  · next hremove =>
      rw [hremove] at hgone
      cases hgone
  · next program command hremove =>
      rw [hremove] at hcommands hgone
      refine ⟨hgone, hcommands, ?_⟩
      rw [hplace, ← Program.length_commands]
      dsimp only at hcommands ⊢
      rw [hcommands]
      simp

theorem deleteSelected (h : s.Shows selection) :
    s.deleteSelected.2 = selection.selected? ∧ s.deleteSelected.1.Shows selection.delete := by
  cases selection with
  | empty =>
      rw [h.deleteSelected_of_empty]
      exact ⟨rfl, h⟩
  | on above selected below =>
      obtain ⟨hgone, hcommands, hcursor⟩ := h.deleteSelected_of_on
      refine ⟨hgone, ?_⟩
      rcases below with _ | ⟨next, below⟩
      · rcases above with _ | ⟨previous, above⟩
        · exact ⟨hcommands, hcursor⟩
        · refine ⟨hcommands.trans (by simp [Selection.delete, Selection.commands]), ?_⟩
          exact hcursor.trans (Nat.min_eq_right (Nat.le_succ _))
      · refine ⟨hcommands, hcursor.trans (Nat.min_eq_left ?_)⟩
        exact Nat.le_add_right _ _

theorem clear (s : EditorState) : s.clear.Shows .empty := ⟨s.program.commands_clear, rfl⟩

theorem moveCursor (h : s.Shows selection) (delta : Int) :
    (s.moveCursor delta).Shows (selection.move delta) := by
  refine ⟨h.commands_eq.trans (selection.commands_move delta).symm, ?_⟩
  rw [selection.index_move, ← h.cursor_eq, ← h.size_eq]
  rfl

/-- An edit of the program is an edit of the list that the editor shows. -/
theorem perform (h : s.Shows selection) (e : Edit) :
    ∃ selection', (s.perform e).Shows selection' := by
  cases e with
  | insert command => exact ⟨_, h.insert command⟩
  | insertLoop count => exact ⟨_, h.insertLoop count⟩
  | deleteSelected => exact ⟨_, h.deleteSelected.2⟩
  | clear => exact ⟨_, Shows.clear s⟩
  | moveCursor delta => exact ⟨_, h.moveCursor delta⟩

end Shows

/-! ### Histories -/

/-- Commands are put in or taken out; those that stay keep their order. -/
theorem Effect.keeps_order {t : EditorState} (h : s.Effect t) :
    s.program.commands.Sublist t.program.commands ∨
      t.program.commands.Sublist s.program.commands := by
  have hinsert (p : Program) (index : Nat) (command : Command) :
      p.commands.Sublist (p.insert index command).commands := by
    rw [Program.commands_insert]
    exact List.sublist_insertIdx _ _ _
  cases h with
  | kept => exact .inl (List.Sublist.refl _)
  | placed command => exact .inl (hinsert ..)
  | looped count _ index => exact .inl ((hinsert ..).trans (hinsert ..))
  | removed index =>
      rw [Program.commands_remove]
      exact .inr (List.eraseIdx_sublist _ _)
  | cleared => exact .inr (List.nil_sublist _)

theorem exists_shows (h : s.Shows selection) (edits : List Edit) :
    ∃ selection', (edits.foldl EditorState.perform s).Shows selection' := by
  induction edits generalizing s selection with
  | nil => exact ⟨selection, h⟩
  | cons e rest ih =>
      obtain ⟨selection', h'⟩ := h.perform e
      exact ih h'

/-- Whatever edits are made of a program, the cursor is the index of a command, or zero if
there is none, and the editor shows one list with one selection.  A command or a loop is
put right below the selected command and selected, or it is refused and the list stays as
it is.  A deletion takes the selected command out and nothing else; where there is none,
nothing happens.  All other commands keep their order. -/
theorem edits_selection (level : Level) (program : Program) (path : String) (config : Config)
    (edits : List Edit) :
    let opened := ofProgram level program path config
    let s := edits.foldl EditorState.perform opened
    opened.Shows (.atFirst program.commands) ∧
    (s.cursor < s.program.size ∨ s.program.size = 0 ∧ s.cursor = 0) ∧
    ∃ selection, (∀ other, s.Shows other ↔ other = selection) ∧
      (∀ command, (s.insert command).1.Shows
        (if (s.insert command).2 then selection.insert command else selection)) ∧
      (∀ count, (s.insertLoop count).1.Shows
        (if (s.insertLoop count).2 then selection.insertLoop count else selection)) ∧
      s.deleteSelected.2 = selection.selected? ∧
      s.deleteSelected.1.Shows selection.delete ∧
      (selection = .empty → s.deleteSelected = (s, none)) ∧
      s.clear.Shows .empty ∧
      (∀ delta, (s.moveCursor delta).Shows (selection.move delta)) ∧
      ∀ e, s.program.commands.Sublist (s.perform e).program.commands ∨
        (s.perform e).program.commands.Sublist s.program.commands := by
  intro opened s
  have hopened : opened.Shows (.atFirst program.commands) :=
    shows_ofProgram level program path config
  obtain ⟨selection, h⟩ := exists_shows hopened edits
  obtain ⟨hgone, hdelete⟩ := h.deleteSelected
  refine ⟨hopened, h.cursor_valid, selection, fun other => ⟨h.unique, ?_⟩, h.insert, h.insertLoop,
    hgone, hdelete, ?_, Shows.clear s, h.moveCursor, fun e => (s.effect_perform e).keeps_order⟩
  · rintro rfl
    exact h
  · rintro rfl
    exact h.deleteSelected_of_empty

/-- A loop goes below the first command, a turn into the loop; then the last command is
deleted and the one above it selected. -/
example :
    ([.insertLoop (.clamp 3), .insert .turnLeft, .moveCursor 9, .deleteSelected].foldl
      EditorState.perform (ofProgram .thrifty (.ofCommands [.advance, .jump]) "p" {})).work =
      ⟨.ofCommands [.advance, .loopStart (.clamp 3), .turnLeft, .loopEnd], 3, true⟩ := by
  decide

end EditorState

end Beamwalk
