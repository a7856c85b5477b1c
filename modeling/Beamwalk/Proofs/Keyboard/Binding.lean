/-
Module: Beamwalk.Proofs.Keyboard.Binding
Purpose: A binding names one chord at most, and every chord with a name has a binding.
Main exports: KeyCode.Named, KeyCode.Nameable, Chord.PressedBy, Chord.Spells,
  Chord.keyOfName?_of_spells, Chord.nameable_of_keyOfName?, binding_names_chord
-/
import Beamwalk.Keyboard.Binding
import Beamwalk.Proofs.Text.Number

namespace Beamwalk

/-!
What a binding means is told by the chord that it names, and what a chord means by the key
presses that it covers.  The names overlap: an `F` alone is a character, with a number behind
it a function key, and with anything else nothing; a prefix of a modifier alone is nothing
either.  The spellings below are those that no other reading takes away.
-/

/-- The twelve keys with a name of their own. -/
inductive KeyCode.Named : String → KeyCode → Prop where
  | right : Named "Right" .right
  | left : Named "Left" .left
  | up : Named "Up" .up
  | down : Named "Down" .down
  | enter : Named "Enter" .enter
  | escape : Named "Esc" .escape
  | space : Named "Space" (.char ' ')
  | tab : Named "Tab" .tab
  | backspace : Named "Backspace" .backspace
  | delete : Named "Delete" .delete
  | home : Named "Home" .home
  | endKey : Named "End" .endKey

/-- The keys that a binding can name: those twelve, the function keys, and the characters. -/
inductive KeyCode.Nameable : KeyCode → Prop where
  | named {name : String} {code : KeyCode} (h : Named name code) : Nameable code
  | function (number : UInt8) : Nameable (.function number)
  | char (c : Char) : Nameable (.char c)

namespace Held

/-- What stands in front of the name of a key. -/
def lead : Held → List Char
  | .nothing => []
  | .control => ['C', 't', 'r', 'l', '-']
  | .alt => ['A', 'l', 't', '-']

theorem agrees_iff {held : Held} {m : Modifiers} :
    held.agrees m = true ↔ (m.control = true ↔ held = .control) ∧ (m.alt = true ↔ held = .alt) := by
  cases held <;> simp [agrees]

end Held

namespace Chord

/-- The key is the one of the chord, and of control and alt exactly the wanted one is down.
What else is held does not matter. -/
def PressedBy (chord : Chord) (key : Key) : Prop :=
  key.code = chord.code ∧
    (key.modifiers.control = true ↔ chord.held = .control) ∧
    (key.modifiers.alt = true ↔ chord.held = .alt)

/-- A way to write the name of a key. -/
inductive Spells : List Char → KeyCode → Prop where
  | named {name : String} {code : KeyCode} (h : KeyCode.Named name code) :
      Spells name.toList code
  | function (number : UInt8) : Spells ('F' :: Nat.toDigits 10 number.toNat) (.function number)
  | char (c : Char) : Spells [c] (.char c)

/-! ### Names of keys -/

/-- The table holds the twelve keys and no others. -/
theorem mem_namedKeys_iff {name : String} {code : KeyCode} :
    (name, code) ∈ namedKeys ↔ KeyCode.Named name code := by
  constructor
  · intro h
    simp only [namedKeys, List.mem_cons, List.not_mem_nil, or_false, Prod.mk.injEq] at h
    rcases h with h | h | h | h | h | h | h | h | h | h | h | h
    all_goals
      rcases h with ⟨rfl, rfl⟩
      constructor
  · intro h
    cases h <;> decide

theorem lookup_of_mem_namedKeys :
    ∀ entry ∈ namedKeys, namedKeys.lookup entry.1 = some entry.2 := by decide

theorem lookup_eq_none {cs : List Char} (h : ∀ entry ∈ namedKeys, entry.1.toList ≠ cs) :
    namedKeys.lookup (String.ofList cs) = none := by
  rw [List.lookup_eq_none_iff]
  intro entry hentry
  refine bne_iff_ne.2 fun heq => h entry hentry ?_
  rw [← heq, String.toList_ofList]

/-- No name in the table is a single character or starts like that of a function key. -/
theorem toList_of_mem_namedKeys :
    ∀ entry ∈ namedKeys, entry.1.toList.length ≠ 1 ∧ entry.1.toList.head? ≠ some 'F' := by decide

theorem functionNumber?_toDigits (number : UInt8) :
    functionNumber? ('F' :: Nat.toDigits 10 number.toNat) = some number := by
  rw [functionNumber?, Text.parseNat?_toDigits number.toNat_lt, Option.map_some, UInt8.ofNat_toNat]

/-- A single character is no function key, not even the letter that they start with. -/
theorem functionNumber?_singleton (c : Char) : functionNumber? [c] = none := by
  unfold functionNumber?
  split
  · next heq =>
      cases heq
      rfl
  · rfl

/-- The spellings are read as the keys that they spell. -/
theorem keyOfName?_of_spells {name : List Char} {code : KeyCode} (h : Spells name code) :
    keyOfName? name = some code := by
  cases h with
  | named h =>
      unfold keyOfName?
      rw [String.ofList_toList, lookup_of_mem_namedKeys _ (mem_namedKeys_iff.2 h)]
  | function number =>
      unfold keyOfName?
      rw [lookup_eq_none fun entry hentry heq => ?_, functionNumber?_toDigits]
      exact (toList_of_mem_namedKeys entry hentry).2 (by rw [heq]; rfl)
  | char c =>
      unfold keyOfName?
      rw [lookup_eq_none fun entry hentry heq => ?_, functionNumber?_singleton]
      exact (toList_of_mem_namedKeys entry hentry).1 (by rw [heq]; rfl)

/-- Whatever is read as a key is one that has a name. -/
theorem nameable_of_keyOfName? {name : List Char} {code : KeyCode}
    (h : keyOfName? name = some code) : code.Nameable := by
  unfold keyOfName? at h
  split at h
  · next hlookup =>
      cases h
      obtain ⟨front, back, htable, _⟩ := List.lookup_eq_some_iff.1 hlookup
      have hentry : (String.ofList name, code) ∈ namedKeys := by
        rw [htable]
        exact List.mem_append_right front List.mem_cons_self
      exact .named (mem_namedKeys_iff.1 hentry)
  · split at h
    · cases h
      exact .function _
    · split at h
      · cases h
        exact .char _
      · cases h

/-- Every key that has a name has a spelling. -/
theorem exists_spells {code : KeyCode} (h : code.Nameable) : ∃ name, Spells name code := by
  cases h with
  | named h => exact ⟨_, .named h⟩
  | function number => exact ⟨_, .function number⟩
  | char c => exact ⟨_, .char c⟩

/-! ### Bindings -/

theorem splitHeld_of_mem_namedKeys :
    ∀ entry ∈ namedKeys, splitHeld entry.1.toList = (.nothing, entry.1.toList) := by decide

/-- No spelling is taken apart. -/
theorem splitHeld_of_spells {name : List Char} {code : KeyCode} (h : Spells name code) :
    splitHeld name = (.nothing, name) := by
  cases h with
  | named h => exact splitHeld_of_mem_namedKeys _ (mem_namedKeys_iff.2 h)
  | function number => rfl
  | char c =>
      unfold splitHeld
      split
      · next heq => cases heq
      · next heq => cases heq
      · rfl

theorem splitHeld_lead {name : List Char} {code : KeyCode} (h : Spells name code) (held : Held) :
    splitHeld (held.lead ++ name) = (held, name) := by
  cases held with
  | nothing => exact splitHeld_of_spells h
  | control | alt => rfl

/-- The binding that consists of the modifier and a spelling of the key names the chord. -/
theorem ofBinding?_of_spells {name : List Char} {chord : Chord} (h : Spells name chord.code) :
    ofBinding? (String.ofList (chord.held.lead ++ name)) = some chord := by
  rw [ofBinding?, String.toList_ofList, splitHeld_lead h]
  simp [keyOfName?_of_spells h]

theorem nameable_of_ofBinding? {binding : String} {chord : Chord}
    (h : ofBinding? binding = some chord) : chord.code.Nameable := by
  obtain ⟨code, hcode, rfl⟩ := Option.map_eq_some_iff.1 h
  exact nameable_of_keyOfName? hcode

/-- A press of the chord, with nothing else held down. -/
def press (chord : Chord) : Key where
  code := chord.code
  modifiers := { control := chord.held = .control, alt := chord.held = .alt }

theorem pressedBy_press (chord : Chord) : chord.PressedBy chord.press := by
  simp [PressedBy, press]

namespace PressedBy

variable {chord : Chord} {key other : Key}

/-- The presses of a chord are of one key, with the same modifiers. -/
theorem same (h : chord.PressedBy key) (h' : chord.PressedBy other) :
    key.code = other.code ∧ key.modifiers.control = other.modifiers.control ∧
      key.modifiers.alt = other.modifiers.alt := by
  obtain ⟨hcode, hcontrol, halt⟩ := h
  obtain ⟨hcode', hcontrol', halt'⟩ := h'
  exact ⟨hcode.trans hcode'.symm, Bool.eq_iff_iff.2 (hcontrol.trans hcontrol'.symm),
    Bool.eq_iff_iff.2 (halt.trans halt'.symm)⟩

/-- A chord asks for one modifier at most. -/
theorem not_both (h : chord.PressedBy key) :
    ¬ (key.modifiers.control = true ∧ key.modifiers.alt = true) := by
  rintro ⟨hcontrol, halt⟩
  cases (h.2.1.1 hcontrol).symm.trans (h.2.2.1 halt)

/-- A key press is of one chord at most. -/
theorem unique {chord' : Chord} (h : chord.PressedBy key) (h' : chord'.PressedBy key) :
    chord = chord' := by
  obtain ⟨held, code⟩ := chord
  obtain ⟨held', code'⟩ := chord'
  obtain ⟨rfl, hcontrol, halt⟩ := h
  obtain ⟨rfl, hcontrol', halt'⟩ := h'
  have hc : held = .control ↔ held' = .control := hcontrol.symm.trans hcontrol'
  have ha : held = .alt ↔ held' = .alt := halt.symm.trans halt'
  cases held <;> cases held' <;> simp_all

end PressedBy

end Chord

theorem matchesBinding_of_none {binding : String} (h : Chord.ofBinding? binding = none) (key : Key) :
    matchesBinding binding key = false := by
  rw [matchesBinding, h]

/-- A binding accepts the presses of the chord that it names. -/
theorem matchesBinding_of_some {binding : String} {chord : Chord}
    (h : Chord.ofBinding? binding = some chord) (key : Key) :
    matchesBinding binding key = true ↔ chord.PressedBy key := by
  rw [matchesBinding, h]
  simp only [Bool.and_eq_true, Held.agrees_iff, decide_eq_true_eq, Chord.PressedBy]
  rw [and_comm, eq_comm]

/-- A binding names one chord at most.  All key presses that it accepts are of one key, with
the same ones of control and alt held down and not with both, and whether a press is accepted
does not depend on anything else that is held.  The chords that have a binding, which accepts
their presses and no others, are those of the keys with a name. -/
theorem binding_names_chord :
    (∀ binding,
      (∀ key other, matchesBinding binding key = true → matchesBinding binding other = true →
        key.code = other.code ∧ key.modifiers.control = other.modifiers.control ∧
          key.modifiers.alt = other.modifiers.alt) ∧
      (∀ key, matchesBinding binding key = true →
        ¬ (key.modifiers.control = true ∧ key.modifiers.alt = true)) ∧
      ∀ key other, key.code = other.code → key.modifiers.control = other.modifiers.control →
        key.modifiers.alt = other.modifiers.alt →
          matchesBinding binding key = matchesBinding binding other) ∧
    ∀ chord : Chord, chord.code.Nameable ↔
      ∃ binding, ∀ key, matchesBinding binding key = true ↔ chord.PressedBy key := by
  refine ⟨fun binding => ?_, fun chord => ⟨fun h => ?_, fun h => ?_⟩⟩
  · cases hbinding : Chord.ofBinding? binding with
    | none =>
        have hnever := matchesBinding_of_none hbinding
        refine ⟨fun key other h _ => ?_, fun key h => ?_, fun key other _ _ _ => ?_⟩
        · cases (hnever key).symm.trans h
        · cases (hnever key).symm.trans h
        · rw [hnever key, hnever other]
    | some chord =>
        have haccepts := matchesBinding_of_some hbinding
        refine ⟨fun key other h h' => ((haccepts key).1 h).same ((haccepts other).1 h'),
          fun key h => ((haccepts key).1 h).not_both, fun key other hcode hcontrol halt => ?_⟩
        rw [Bool.eq_iff_iff, haccepts key, haccepts other, Chord.PressedBy, Chord.PressedBy, hcode,
          hcontrol, halt]
  · obtain ⟨name, hname⟩ := Chord.exists_spells h
    exact ⟨_, matchesBinding_of_some (Chord.ofBinding?_of_spells hname)⟩
  · obtain ⟨binding, hbinding⟩ := h
    have hpress := (hbinding chord.press).2 chord.pressedBy_press
    cases hnamed : Chord.ofBinding? binding with
    | none =>
        rw [matchesBinding_of_none hnamed] at hpress
        cases hpress
    | some named =>
        have hsame := (matchesBinding_of_some hnamed _).1 hpress
        rw [chord.pressedBy_press.unique hsame]
        exact Chord.nameable_of_ofBinding? hnamed

/-- Saving, with and without shift; a function key that is held with alt, the key that ends a
line with control, and a key without a name. -/
theorem binding_names_chord_save :
    let save : Key := ⟨.char 's', { control := true }⟩
    let shifted : Key := ⟨.char 's', { control := true, shift := true, hyper := true }⟩
    (matchesBinding "Ctrl-s" save = true ∧ matchesBinding "Ctrl-s" shifted = true ∧
      save.code = shifted.code ∧
      ¬ (shifted.modifiers.control = true ∧ shifted.modifiers.alt = true) ∧
      matchesBinding "Ctrl-" save = matchesBinding "Ctrl-" shifted) ∧
    ((KeyCode.function 12).Nameable ∧
      ∃ binding, ∀ key, matchesBinding binding key = true ↔
        (Chord.mk .alt (.function 12)).PressedBy key) ∧
    (KeyCode.enter.Nameable ∧ matchesBinding "Ctrl-Enter" ⟨.enter, { control := true }⟩ = true ∧
      ∃ binding, ∀ key, matchesBinding binding key = true ↔
        (Chord.mk .control .enter).PressedBy key) ∧
    (¬ KeyCode.insert.Nameable ∧
      ¬ ∃ binding, ∀ key, matchesBinding binding key = true ↔
        (Chord.mk .nothing .insert).PressedBy key) := by
  intro save shifted
  obtain ⟨honce, hconverse⟩ := binding_names_chord
  obtain ⟨hsame, hboth, _⟩ := honce "Ctrl-s"
  obtain ⟨_, _, hothers⟩ := honce "Ctrl-"
  have hsave : matchesBinding "Ctrl-s" save = true := by decide
  have hshifted : matchesBinding "Ctrl-s" shifted = true := by decide
  have hfunction : (KeyCode.function 12).Nameable := .function 12
  have henter : KeyCode.enter.Nameable := .named .enter
  have hinsert : ¬ KeyCode.insert.Nameable := by
    rintro ⟨⟨⟩⟩
  exact ⟨⟨hsave, hshifted, (hsame save shifted hsave hshifted).1, hboth shifted hshifted,
      hothers save shifted rfl rfl rfl⟩,
    ⟨hfunction, (hconverse ⟨.alt, .function 12⟩).1 hfunction⟩,
    ⟨henter, by decide, (hconverse ⟨.control, .enter⟩).1 henter⟩,
    ⟨hinsert, fun h => hinsert ((hconverse ⟨.nothing, .insert⟩).2 h)⟩⟩

end Beamwalk
