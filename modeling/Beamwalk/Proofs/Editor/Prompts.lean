/-
Module: Beamwalk.Proofs.Editor.Prompts
Purpose: What keys can do while the editor asks for a count or for an answer.
Main exports: Mode.Orderly, EditorState.orderly_meet, EditorState.orderly_after,
  EditorState.Modal, EditorState.modal_handleKey, EditorState.prompts_are_modal
-/
import Beamwalk.Proofs.Editor.Budget
import Beamwalk.Proofs.Text.Number

namespace Beamwalk

/-- What the prompts may hold: few enough digits, and nothing else, or the number of one of
the two answers. -/
def Mode.Orderly : Mode → Prop
  | .normal => True
  | .repeatCount digits =>
      digits.length ≤ EditorState.maxCountDigits ∧ ∀ c ∈ digits, c.isDigit = true
  | .confirm _ selected => selected = 0 ∨ selected = 1

/-- Taking the number of an answer from one leads to the other answer and does not go below
zero. -/
theorem Mode.Orderly.other {question : Question} {selected : UInt64}
    (h : (Mode.confirm question selected).Orderly) :
    (Mode.confirm question (1 - selected)).Orderly ∧
      (1 - selected).toNat + selected.toNat = 1 := by
  rcases h with rfl | rfl
  · exact ⟨.inr rfl, rfl⟩
  · exact ⟨.inl rfl, rfl⟩

namespace EditorState

variable {s t : EditorState} {files : FileTree} {key : Key} {digits : List Char}

/-! ### What the prompts hold -/

theorem Effect.mode_eq (h : s.Effect t) : t.mode = s.mode := by
  cases h <;> rfl

theorem mode_perform (s : EditorState) (e : Edit) : (s.perform e).mode = s.mode :=
  (s.effect_perform e).mode_eq

theorem mode_trySave (s : EditorState) (files : FileTree) :
    (s.trySave files).1.mode = s.mode := by
  unfold trySave save
  cases saveProgram files s.path s.program <;> rfl

theorem mode_deleteKey (s : EditorState) : s.deleteKey.mode = s.mode := by
  have hmode := s.mode_perform .deleteSelected
  unfold deleteKey
  unfold perform at hmode
  cases hdelete : s.deleteSelected with
  | mk t removed =>
      rw [hdelete] at hmode
      cases removed <;> exact hmode

/-- Keys open prompts with no digits, and with the answer that does nothing. -/
theorem mode_serve (s : EditorState) (files : FileTree) (purpose : Option Purpose) :
    (s.serve files purpose).state.mode = s.mode ∨
      (s.serve files purpose).state.mode = .repeatCount [] ∨
        ∃ question, (s.serve files purpose).state.mode = .confirm question 1 := by
  cases purpose with
  | none => exact .inl rfl
  | some purpose =>
      cases purpose with
      | quit | run | move => exact .inl rfl
      | save => exact .inl (s.mode_trySave files)
      | delete => exact .inl s.mode_deleteKey
      | clear =>
          rw [serve, clearKey]
          split
          · exact .inl rfl
          · exact .inr (.inr ⟨_, rfl⟩)
      | askCount => exact .inr (.inl rfl)
      | insert command => exact .inl (s.mode_perform (.insert command))

theorem orderly_serve (h : s.mode.Orderly) (files : FileTree) (purpose : Option Purpose) :
    (s.serve files purpose).state.mode.Orderly := by
  rcases s.mode_serve files purpose with hmode | hmode | ⟨question, hmode⟩
  · rw [hmode]
    exact h
  · rw [hmode]
    exact ⟨Nat.zero_le _, nofun⟩
  · rw [hmode]
    exact .inr rfl

theorem orderly_confirmCount (h : s.mode.Orderly) (digits : List Char) :
    (s.confirmCount digits).mode.Orderly := by
  unfold confirmCount
  split
  · next count _ =>
      have hmode := { s with mode := .normal }.mode_perform (.insertLoop count)
      rw [perform] at hmode
      rw [hmode]
      trivial
  · exact h

theorem orderly_handleRepeatCount (h : s.mode.Orderly) (hmode : s.mode = .repeatCount digits)
    (key : Key) : (s.handleRepeatCount digits key).1.mode.Orderly := by
  obtain ⟨hlength, hdigits⟩ : (Mode.repeatCount digits).Orderly := hmode ▸ h
  unfold handleRepeatCount
  dsimp only
  split
  · trivial
  · split
    · exact orderly_confirmCount h digits
    · cases key.code with
      | char c =>
          dsimp only
          split
          · next hfits =>
              rw [Bool.and_eq_true, decide_eq_true_eq] at hfits
              exact ⟨by rw [List.length_append]; exact hfits.2, List.forall_mem_append.2
                ⟨hdigits, List.forall_mem_singleton.2 hfits.1⟩⟩
          · exact h
      | backspace =>
          refine ⟨?_, fun d hd => hdigits d ((List.dropLast_sublist digits).subset hd)⟩
          rw [List.length_dropLast]
          exact Nat.le_trans (Nat.sub_le _ _) hlength
      | _ => exact h

theorem orderly_handleConfirm {question : Question} {selected : UInt64} (h : s.mode.Orderly)
    (hmode : s.mode = .confirm question selected) (key : Key) :
    (s.handleConfirm question selected key).1.mode.Orderly := by
  have hother := Mode.Orderly.other (hmode ▸ h)
  unfold handleConfirm
  split
  · trivial
  · cases key.code with
    | up | down | left | right | tab => exact hother.1
    | enter => trivial
    | _ => exact h

theorem orderly_handleKey (h : s.mode.Orderly) (files : FileTree) (key : Key) :
    (s.handleKey files key).state.mode.Orderly := by
  unfold handleKey
  split
  · exact h
  · cases hmode : s.mode with
    | normal =>
        dsimp only
        rw [handleNormal_eq]
        exact orderly_serve h files _
    | repeatCount digits => exact orderly_handleRepeatCount h hmode key
    | confirm question selected => exact orderly_handleConfirm h hmode key

theorem orderly_meet (h : s.mode.Orderly) (o : Occurrence) : (s.meet o).mode.Orderly := by
  cases o with
  | call edit =>
      rw [meet, mode_perform]
      exact h
  | event event files =>
      cases event with
      | key key => exact orderly_handleKey h files key
      | resize _ _ | paste _ | focus => exact h

theorem orderly_after (h : s.mode.Orderly) (history : List Occurrence) :
    (s.after history).mode.Orderly := by
  induction history generalizing s with
  | nil => exact h
  | cons o rest ih => exact ih (orderly_meet h o)

/-! ### What keys do in a prompt -/

/-- The key answers to the binding for cancelling. -/
def Cancels (s : EditorState) (key : Key) : Prop :=
  matchesBinding s.config.keys.cancel key = true

/-- The key answers to the binding for confirming. -/
def Confirms (s : EditorState) (key : Key) : Prop :=
  matchesBinding s.config.keys.confirm key = true

/-- All that a key can do in an open prompt. -/
structure Modal (s : EditorState) (key : Key) (t : EditorState) : Prop where
  /-- The key for cancelling closes the prompt and does nothing else, whatever else it is
  good for. -/
  cancel : s.Cancels key → t = { s with mode := .normal }
  /-- With digits in the prompt, the key for confirming inserts a loop with that count. -/
  count : ¬ s.Cancels key → s.Confirms key →
    ∀ digits, s.mode = .repeatCount digits → digits ≠ [] →
      ∃ count : Count, count.val = Nat.ofDigitChars 10 digits 0 ∧
        t.work = (s.insertLoop count).1.work ∧ t.mode = .normal
  /-- Without digits the prompt stays open. -/
  noCount : ¬ s.Cancels key → s.Confirms key →
    s.mode = .repeatCount [] → t.mode = s.mode ∧ t.work = s.work
  /-- The answer yes clears the program. -/
  answer : ¬ s.Cancels key → key.code = .enter →
    ∀ question, s.mode = .confirm question 0 → t.work = s.clear.work ∧ t.mode = .normal
  /-- Nothing else reaches the work. -/
  idle : (s.Confirms key → ∀ digits, s.mode = .repeatCount digits → digits = []) →
    (key.code = .enter → ∀ question, s.mode ≠ .confirm question 0) → t.work = s.work

/-- The digits of a prompt are a count, and confirming them inserts a loop. -/
theorem confirmCount_of_digits (hdigits : (Mode.repeatCount digits).Orderly) (hne : digits ≠ []) :
    ∃ count : Count, count.val = Nat.ofDigitChars 10 digits 0 ∧
      s.confirmCount digits = ({ s with mode := .normal }.insertLoop count).1 := by
  obtain ⟨hlength, hall⟩ := hdigits
  have hlimit : Nat.pow 10 digits.length ≤ Count.limit :=
    Nat.le_trans (Nat.pow_le_pow_right (by decide) hlength) (by decide)
  have hvalue : Nat.ofDigitChars 10 digits 0 < Count.limit :=
    Nat.lt_of_lt_of_le (Text.ofDigitChars_lt hall) hlimit
  refine ⟨⟨_, hvalue⟩, rfl, ?_⟩
  rw [confirmCount, Text.parseNat?_of_digits hne hall hlimit, Option.bind_some, Count.ofNat?,
    dif_pos hvalue]

theorem Modal.of_cancel (cancels : s.Cancels key) : s.Modal key { s with mode := .normal } where
  cancel _ := rfl
  count h := absurd cancels h
  noCount h := absurd cancels h
  answer h := absurd cancels h
  idle _ _ := rfl

/-- A key that neither cancels nor settles what the prompt asks for leaves the work alone. -/
theorem Modal.of_idle (cancels : ¬ s.Cancels key)
    (hcount : s.Confirms key → ∀ digits, s.mode ≠ .repeatCount digits)
    (hanswer : key.code = .enter → ∀ question, s.mode ≠ .confirm question 0)
    (hwork : t.work = s.work) : s.Modal key t where
  cancel h := absurd h cancels
  count _ confirms digits hmode := absurd hmode (hcount confirms digits)
  noCount _ confirms hmode := absurd hmode (hcount confirms [])
  answer _ henter question hmode := absurd hmode (hanswer henter question)
  idle _ _ := hwork

theorem Modal.of_answer {question : Question} (cancels : ¬ s.Cancels key)
    (henter : key.code = .enter) (hmode : s.mode = .confirm question 0)
    (hwork : t.work = s.clear.work) (hclosed : t.mode = .normal) : s.Modal key t where
  cancel h := absurd h cancels
  count _ _ _ h := by cases hmode.symm.trans h
  noCount _ _ h := by cases hmode.symm.trans h
  answer _ _ _ _ := ⟨hwork, hclosed⟩
  idle _ hanswer := absurd hmode (hanswer henter question)

theorem modal_confirmCount (hmode : s.mode = .repeatCount digits)
    (hdigits : (Mode.repeatCount digits).Orderly) (cancels : ¬ s.Cancels key)
    (confirms : s.Confirms key) : s.Modal key (s.confirmCount digits) where
  cancel h := absurd h cancels
  count _ _ := by
    rw [hmode]
    rintro _ ⟨⟩ hne
    obtain ⟨count, hvalue, hinsert⟩ := confirmCount_of_digits (s := s) hdigits hne
    rw [hinsert]
    exact ⟨count, hvalue, s.work_insertLoop_mode .normal count,
      { s with mode := .normal }.mode_perform (.insertLoop count)⟩
  noCount _ _ := by
    rw [hmode]
    rintro ⟨⟩
    exact ⟨hmode, rfl⟩
  answer _ _ _ h := by cases hmode.symm.trans h
  idle hempty _ := by
    rw [hempty confirms digits hmode]
    rfl

theorem modal_handleRepeatCount (hmode : s.mode = .repeatCount digits)
    (hdigits : (Mode.repeatCount digits).Orderly) (key : Key) :
    s.Modal key (s.handleRepeatCount digits key).1 := by
  unfold handleRepeatCount
  dsimp only
  split
  · next cancels => exact .of_cancel cancels
  · next cancels =>
      split
      · next confirms => exact modal_confirmCount hmode hdigits cancels confirms
      · next confirms =>
          apply Modal.of_idle cancels
          · exact fun h => absurd h confirms
          · rw [hmode]
            exact nofun
          · cases key.code with
            | char c =>
                dsimp only
                split <;> rfl
            | _ => rfl

theorem modal_handleConfirm {question : Question} {selected : UInt64}
    (hmode : s.mode = .confirm question selected) (key : Key) :
    s.Modal key (s.handleConfirm question selected key).1 := by
  have hcount : ∀ digits, s.mode ≠ .repeatCount digits := by
    rw [hmode]
    exact nofun
  unfold handleConfirm
  split
  · next cancels => exact .of_cancel cancels
  · next cancels =>
      cases hcode : key.code with
      | enter =>
          dsimp only
          by_cases hyes : selected = 0
          · subst hyes
            exact .of_answer cancels hcode hmode rfl rfl
          · rw [if_neg hyes]
            refine .of_idle cancels (fun _ => hcount) (fun _ question' h => hyes ?_) rfl
            exact (Mode.confirm.inj (hmode.symm.trans h)).2
      | _ => exact .of_idle cancels (fun _ => hcount) (fun h => by cases hcode.symm.trans h) rfl

/-- The key for the full screen has nothing to do with prompts. -/
theorem handleKey_fullscreen (hcode : key.code = .function 11) :
    s.handleKey files key = ⟨s, .toggleFullscreen, files⟩ := if_pos hcode

theorem modal_handleKey (h : s.mode.Orderly) (hprompt : s.mode ≠ .normal)
    (hcode : key.code ≠ .function 11) :
    s.Modal key (s.handleKey files key).state ∧ (s.handleKey files key).files = files := by
  rw [handleKey, if_neg hcode]
  cases hmode : s.mode with
  | normal => exact absurd hmode hprompt
  | repeatCount digits => exact ⟨modal_handleRepeatCount hmode (hmode ▸ h) key, rfl⟩
  | confirm question selected => exact ⟨modal_handleConfirm hmode key, rfl⟩

/-- The prompts of the editor keep to themselves, for every configuration and whatever has
happened before.  The prompt for a count holds at most four digits and nothing else; the
number of the answer that is selected is zero or one, so that taking it from one never goes
below zero.  The key for the full screen changes nothing.  Of the other keys, an open prompt
lets through to the work only what confirms a count or answers yes. -/
theorem prompts_are_modal (level : Level) (program : Program) (path : String) (config : Config)
    (history : List Occurrence) :
    let s := (ofProgram level program path config).after history
    s.config = config ∧
    (∀ digits, s.mode = .repeatCount digits →
      digits.length ≤ 4 ∧ ∀ c ∈ digits, c.isDigit = true) ∧
    (∀ question selected, s.mode = .confirm question selected →
      (selected = 0 ∨ selected = 1) ∧ (1 - selected).toNat + selected.toNat = 1) ∧
    (∀ files key, key.code = .function 11 →
      s.handleKey files key = ⟨s, .toggleFullscreen, files⟩) ∧
    ∀ files key, s.mode ≠ .normal → key.code ≠ .function 11 →
      s.Modal key (s.handleKey files key).state ∧ (s.handleKey files key).files = files := by
  intro s
  have horderly : s.mode.Orderly :=
    orderly_after (s := ofProgram level program path config) trivial history
  refine ⟨?_, fun digits hmode => ?_, fun question selected hmode => ?_, ?_, ?_⟩
  · exact congrArg (·.2.2) (frame_after _ history)
  · rw [hmode] at horderly
    exact horderly
  · have hselected : (Mode.confirm question selected).Orderly := hmode ▸ horderly
    exact ⟨hselected, hselected.other.2⟩
  · exact fun files key => handleKey_fullscreen
  · exact fun files key => modal_handleKey horderly

/-- One key confirms, opens the prompt for a count and is a digit, and the key that cancels
is the one that answers. -/
def crossedKeys : KeyBindings :=
  { insertLoop := "7", confirm := "7", cancel := "Enter", clear := "Tab" }

/-- The presses of some keys. -/
def presses (codes : List KeyCode) : List Occurrence :=
  codes.map fun code => .event (.key ⟨code, {}⟩) (.empty [])

/-- A seven confirms the one before it instead of following it, and the answer yes is
cancelled by the key that would give it. -/
theorem prompts_are_modal_crossed :
    let opened := ofProgram .thrifty (.ofCommands [.advance]) "program.json" ⟨crossedKeys, {}⟩
    let asked := opened.after (presses [.char '7', .char '1'])
    let warned := opened.after (presses [.tab, .tab])
    (asked.mode = .repeatCount ['1'] ∧ ∃ count : Count, count.val = 1 ∧
      (asked.handleKey (.empty []) ⟨.char '7', {}⟩).state.work =
        (asked.insertLoop count).1.work ∧
      (asked.handleKey (.empty []) ⟨.char '7', {}⟩).state.mode = .normal) ∧
    warned.mode = .confirm (.clearProgram 1) 0 ∧
      (warned.handleKey (.empty []) ⟨.enter, {}⟩).state = { warned with mode := .normal } ∧
      (warned.handleKey (.empty []) ⟨.function 11, {}⟩).state = warned := by
  intro opened asked warned
  have hasked : asked.mode = .repeatCount ['1'] := by decide
  have hwarned : warned.mode = .confirm (.clearProgram 1) 0 := by decide
  obtain ⟨hkeys, -, -, -, hprompt⟩ := prompts_are_modal .thrifty (.ofCommands [.advance])
    "program.json" ⟨crossedKeys, {}⟩ (presses [.char '7', .char '1'])
  obtain ⟨hkeys', -, -, hfullscreen, hprompt'⟩ := prompts_are_modal .thrifty
    (.ofCommands [.advance]) "program.json" ⟨crossedKeys, {}⟩ (presses [.tab, .tab])
  change asked.config = _ at hkeys
  change warned.config = _ at hkeys'
  have hcount := (hprompt (.empty []) ⟨.char '7', {}⟩ (hasked ▸ nofun) nofun).1
  change asked.Modal ⟨.char '7', {}⟩ (asked.handleKey (.empty []) ⟨.char '7', {}⟩).state at hcount
  have hcancel := (hprompt' (.empty []) ⟨.enter, {}⟩ (hwarned ▸ nofun) nofun).1
  change warned.Modal ⟨.enter, {}⟩ (warned.handleKey (.empty []) ⟨.enter, {}⟩).state at hcancel
  have hstays := hfullscreen (.empty []) ⟨.function 11, {}⟩ rfl
  change warned.handleKey (.empty []) ⟨.function 11, {}⟩ = ⟨warned, _, _⟩ at hstays
  -- From here on the states are known by what is said of them and need not be computed.
  clear_value asked warned
  refine ⟨⟨hasked, ?_⟩, hwarned, hcancel.cancel ?_, ?_⟩
  · obtain ⟨count, hvalue, hwork⟩ :=
      hcount.count (by rw [Cancels, hkeys]; decide) (by rw [Confirms, hkeys]; decide) ['1']
        hasked nofun
    exact ⟨count, hvalue.trans (by decide), hwork⟩
  · rw [Cancels, hkeys']
    decide
  · rw [hstays]

end EditorState

end Beamwalk
