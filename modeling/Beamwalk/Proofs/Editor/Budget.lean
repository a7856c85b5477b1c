/-
Module: Beamwalk.Proofs.Editor.Budget
Purpose: The editor keeps a program within the caps of its level.
Main exports: Budget.remaining_eq_zero_iff, Program.count_insert, EditorState.refuses_iff,
  EditorState.Occurrence, EditorState.after, EditorState.count_le_cap,
  EditorState.editor_keeps_caps
-/
import Mathlib.Data.List.Perm.Basic
import Beamwalk.Proofs.Editor.Edits
import Beamwalk.Proofs.Program.Editing

namespace Beamwalk

namespace Budget

variable {budget : Budget} {used : Nat}

/-- The difference of counts is zero exactly when the comparison of numbers says that the
cap is reached.  Numbers that are too large for a count do no harm: every cap is below
what they are taken for. -/
theorem remaining_eq_zero_iff :
    budget.remaining used = .limited .zero ↔ ∃ max, budget = .limited max ∧ max.val ≤ used := by
  cases budget with
  | unlimited => simp [remaining]
  | limited max =>
      have hmax : max.val < Count.limit := max.lt_limit
      simp only [remaining, limited.injEq, ← Count.val_inj, Count.val_minus, Count.val_clamp,
        Count.val_zero]
      constructor
      · intro hzero
        exact ⟨max, rfl, by omega⟩
      · rintro ⟨cap, hcap, hle⟩
        rw [← hcap] at hle
        omega

theorem allows_iff : budget.allows used = true ↔ ∀ max, budget = .limited max → used ≤ max.val := by
  cases budget <;> simp [allows]

end Budget

namespace Program

/-! ### How edits change what counts in a class -/

theorem count_insert (p : Program) (index : Nat) (command : Command) (c : CommandClass) :
    (p.insert index command).count c = p.count c + if command.class? = some c then 1 else 0 := by
  have hindex : min index p.size ≤ p.commands.length := by
    rw [length_commands]
    exact Nat.min_le_right _ _
  rw [count, commands_insert, (List.perm_insertIdx command p.commands hindex).countP_eq,
    List.countP_cons, count]
  simp only [beq_iff_eq]

theorem count_remove_le (p : Program) (index : Nat) (c : CommandClass) :
    (p.remove index).1.count c ≤ p.count c := by
  rw [count, commands_remove]
  exact (List.eraseIdx_sublist p.commands index).countP_le

theorem overBudget_eq_nil_iff {p : Program} {budgets : Budgets} :
    p.overBudget budgets = [] ↔
      ∀ c max, c.budget budgets = .limited max → p.count c ≤ max.val := by
  simp only [overBudget, List.filter_eq_nil_iff, Bool.not_eq_true', Bool.not_eq_false,
    Budget.allows_iff]
  exact ⟨fun h c => h c c.mem_all, fun h c _ => h c⟩

end Program

namespace EditorState

variable {s t : EditorState} {command : Command} {c : CommandClass} {max : Count}

/-! ### One edit -/

theorem isExhausted_iff :
    s.isExhausted c = true ↔
      ∃ max, c.budget s.level.budgets = .limited max ∧ max.val ≤ s.program.count c :=
  decide_eq_true_iff.trans Budget.remaining_eq_zero_iff

/-- The editor refuses a command exactly when the cap on its class is reached. -/
theorem refuses_iff :
    s.refuses command = true ↔ ∃ c max, command.class? = some c ∧
      c.budget s.level.budgets = .limited max ∧ max.val ≤ s.program.count c := by
  simp only [refuses, Option.any_eq_true, isExhausted_iff]
  constructor
  · rintro ⟨c, hclass, max, hcap, hreached⟩
    exact ⟨c, max, hclass, hcap, hreached⟩
  · rintro ⟨c, max, hclass, hcap, hreached⟩
    exact ⟨c, hclass, max, hcap, hreached⟩

theorem count_place_le (accepted : s.refuses command = false)
    (hcap : c.budget s.level.budgets = .limited max) :
    (s.place command).program.count c ≤ Nat.max max.val (s.program.count c) := by
  have hcount : (s.place command).program.count c =
      s.program.count c + if command.class? = some c then 1 else 0 :=
    s.program.count_insert s.insertionIndex command c
  rw [hcount]
  split
  · next hclass =>
      have hfree : s.program.count c < max.val := by
        refine Nat.lt_of_not_le fun hreached => ?_
        rw [refuses_iff.2 ⟨c, max, hclass, hcap, hreached⟩] at accepted
        cases accepted
      exact Nat.le_trans hfree (Nat.le_max_left _ _)
  · exact Nat.le_max_right _ _

/-- No edit takes a class over its cap, or further over it. -/
theorem Effect.count_le (h : s.Effect t) (hcap : c.budget s.level.budgets = .limited max) :
    t.program.count c ≤ Nat.max max.val (s.program.count c) := by
  cases h with
  | kept => exact Nat.le_max_right _ _
  | placed command accepted => exact count_place_le accepted hcap
  | looped count accepted index =>
      -- The closer that comes with the opener is in no class.
      have hcloser := (s.place (.loopStart count)).program.count_insert index .loopEnd c
      exact Nat.le_trans (Nat.le_of_eq hcloser) (count_place_le accepted hcap)
  | removed index =>
      exact Nat.le_trans (s.program.count_remove_le index c) (Nat.le_max_right _ _)
  | cleared => exact Nat.zero_le _

/-! ### Histories -/

/-- What can happen to an editor that is open: the call of an edit, or an event of the
terminal together with the files as they are at that moment. -/
inductive Occurrence where
  | call (edit : Edit)
  | event (event : TerminalEvent) (files : FileTree)
deriving Repr, DecidableEq

/-- The state after an occurrence. -/
def meet (s : EditorState) : Occurrence → EditorState
  | .call edit => s.perform edit
  | .event event files => (s.handleEvent files event).state

/-- The state after a history. -/
def after (s : EditorState) (history : List Occurrence) : EditorState := history.foldl meet s

/-- As far as the program is concerned, an occurrence is one edit or nothing. -/
theorem meet_cases (s : EditorState) (o : Occurrence) :
    (s.meet o).frame = s.frame ∧
      ((s.meet o).program = s.program ∨ ∃ e, (s.meet o).program = (s.perform e).program) := by
  cases o with
  | call edit => exact ⟨(s.effect_perform edit).frame_eq, .inr ⟨edit, rfl⟩⟩
  | event event files =>
      cases event with
      | resize _ _ | paste _ | focus => exact ⟨rfl, .inl rfl⟩
      | key key =>
          by_cases hsave : s.purpose? key = some .save
          · simp only [meet, handleEvent, handleKey_of_purpose hsave, serve, trySave, save]
            cases saveProgram files s.path s.program <;> exact ⟨rfl, .inl rfl⟩
          · obtain ⟨⟨hframe, hwork⟩, _⟩ := follows_handleKey files hsave
            refine ⟨hframe, hwork.imp (congrArg Work.program) ?_⟩
            rintro ⟨e, he⟩
            exact ⟨e, congrArg Work.program he⟩

theorem frame_after (s : EditorState) (history : List Occurrence) :
    (s.after history).frame = s.frame := by
  induction history generalizing s with
  | nil => rfl
  | cons o rest ih => exact (ih (s.meet o)).trans (s.meet_cases o).1

theorem level_after (s : EditorState) (history : List Occurrence) :
    (s.after history).level = s.level := congrArg Prod.fst (s.frame_after history)

theorem count_meet_le (hcap : c.budget s.level.budgets = .limited max) (o : Occurrence) :
    (s.meet o).program.count c ≤ Nat.max max.val (s.program.count c) := by
  obtain ⟨-, hsame | ⟨e, hedit⟩⟩ := s.meet_cases o
  · rw [hsame]
    exact Nat.le_max_right _ _
  · rw [hedit]
    exact (s.effect_perform e).count_le hcap

theorem count_after_le (hcap : c.budget s.level.budgets = .limited max)
    (history : List Occurrence) :
    (s.after history).program.count c ≤ Nat.max max.val (s.program.count c) := by
  induction history generalizing s with
  | nil => exact Nat.le_max_right _ _
  | cons o rest ih =>
      have hlevel : (s.meet o).level = s.level := congrArg Prod.fst (s.meet_cases o).1
      have hrest := ih (s := s.meet o) (by rw [hlevel]; exact hcap)
      exact Nat.le_trans hrest (Nat.max_le.2 ⟨Nat.le_max_left _ _, count_meet_le hcap o⟩)

/-- The editor keeps to the caps of its level, whatever happens to it: of a class with a
cap, a program never holds more than the cap or than it held at the start, so a program
within its caps stays within them.  A command or a loop is refused exactly when the cap on
its class is reached, and then the work is as it was. -/
theorem editor_keeps_caps (s : EditorState) (history : List Occurrence) :
    let t := s.after history
    t.level = s.level ∧
    (∀ c max, c.budget s.level.budgets = .limited max →
      t.program.count c ≤ Nat.max max.val (s.program.count c)) ∧
    (s.program.overBudget s.level.budgets = [] → t.program.overBudget t.level.budgets = []) ∧
    (∀ command, (t.insert command).2 = false ↔ ∃ c max, command.class? = some c ∧
      c.budget s.level.budgets = .limited max ∧ max.val ≤ t.program.count c) ∧
    (∀ count, (t.insertLoop count).2 = false ↔ ∃ max,
      s.level.budgets.loops = .limited max ∧ max.val ≤ t.program.count .loop) ∧
    (∀ command, (t.insert command).2 = false → (t.insert command).1.work = t.work) ∧
    ∀ count, (t.insertLoop count).2 = false → (t.insertLoop count).1.work = t.work := by
  intro t
  have hlevel : t.level = s.level := s.level_after history
  have hcount : ∀ c max, c.budget s.level.budgets = .limited max →
      t.program.count c ≤ Nat.max max.val (s.program.count c) :=
    fun c max hcap => count_after_le hcap history
  refine ⟨hlevel, hcount, ?_, ?_, ?_, ?_, ?_⟩
  · rw [hlevel, Program.overBudget_eq_nil_iff, Program.overBudget_eq_nil_iff]
    intro hstart c max hcap
    exact Nat.le_trans (hcount c max hcap) (Nat.max_le.2 ⟨Nat.le_refl _, hstart c max hcap⟩)
  · intro command
    rw [refused_insert, refuses_iff, hlevel]
  · intro count
    rw [refused_insertLoop, refuses_iff, hlevel]
    constructor
    · rintro ⟨c, max, hclass, hcap, hreached⟩
      cases hclass
      exact ⟨max, hcap, hreached⟩
    · rintro ⟨max, hcap, hreached⟩
      exact ⟨.loop, max, rfl, hcap, hreached⟩
  · intro command hrefused
    obtain ⟨status, hinsert⟩ := insert_of_refuses (refused_insert.1 hrefused)
    rw [hinsert]
    rfl
  · intro count hrefused
    obtain ⟨status, hinsert⟩ := insertLoop_of_refuses (refused_insertLoop.1 hrefused)
    rw [hinsert]
    rfl

/-- A jump and a loop by their keys, and then the key for a jump once more. -/
def spree : List Occurrence :=
  [⟨.char 'j', {}⟩, ⟨.char '[', {}⟩, ⟨.char '3', {}⟩, ⟨.enter, {}⟩, ⟨.char 'j', {}⟩].map fun key =>
    .event (.key key) (.empty [])

end EditorState

/-- A level that grants one jump and one loop. -/
def Level.thrifty : Level where
  name := none
  cells := .ofRows [[.start .east, .coin]] (by decide)
  enabled := .allOff
  budgets := { jumps := .limited (.clamp 1), loops := .limited (.clamp 1) }
  width_ne_zero := by decide
  height_ne_zero := by decide
  starts_ne_zero := by decide
  starts_le := by decide

/-- Both caps are used up in the end, and the second jump has not been inserted. -/
theorem EditorState.editor_keeps_caps_thrifty :
    let s := EditorState.ofProgram .thrifty (.ofCommands [.advance]) "program.json" {}
    let t := s.after spree
    t.program.commands = [.advance, .jump, .loopStart (.clamp 3), .loopEnd] ∧
    t.program.overBudget t.level.budgets = [] ∧
    t.program.count .jump ≤ 1 ∧
    ((t.insert .jump).2 = false ∧ (t.insert .jump).1.work = t.work) ∧
    (t.insertLoop .zero).2 = false ∧ (t.insertLoop .zero).1.work = t.work := by
  intro s t
  obtain ⟨_, hcount, hover, hinsert, hloop, hkept, hkeptLoop⟩ := s.editor_keeps_caps spree
  have hjump : (t.insert .jump).2 = false :=
    (hinsert .jump).2 ⟨.jump, .clamp 1, rfl, rfl, by decide⟩
  have hrepeat : (t.insertLoop .zero).2 = false :=
    (hloop .zero).2 ⟨.clamp 1, rfl, by decide⟩
  exact ⟨by decide, hover (by decide), hcount .jump (.clamp 1) rfl,
    ⟨hjump, hkept .jump hjump⟩, hrepeat, hkeptLoop .zero hrepeat⟩

end Beamwalk
