/-
Module: Beamwalk.Proofs.Json.Written
Purpose: A text of a JSON value is scanned as the value, whatever its layout.
Main exports: Json.node, Json.Spells, Json.Spells.scan, Json.Spells.ofText, Json.spells_compact,
  Json.spells_pretty, Json.inline_compact
-/
import Mathlib.Data.List.DropRight
import Beamwalk.Proofs.Json.Lexemes

namespace Beamwalk.Json

/-! ### The texts of a value -/

mutual

/-- What the text of a value says. -/
def node : Json → Node
  | .null => .null
  | .bool b => .bool b
  | .int i => .number (.ofInt i)
  | .string s => .string (some s)
  | .array items => .array (nodes items) true
  | .object fields => .object (fieldNodes fields) true

/-- What the texts of the items of an array say. -/
def nodes : List Json → List Node
  | [] => []
  | item :: items => item.node :: nodes items

/-- What the texts of the fields of an object say. -/
def fieldNodes : List (String × Json) → List (Option String × Node)
  | [] => []
  | (key, value) :: fields => (some key, value.node) :: fieldNodes fields

end

mutual

/-- A text spells a value and goes on with `rest`.  Blanks may stand in front of
every token. -/
inductive Spells : Json → (text rest : List Char) → Prop where
  | null {cs rest : List Char} (h : skipBlanks cs = write .null rest) : Spells .null cs rest
  | bool {cs rest : List Char} (b : Bool) (h : skipBlanks cs = write (.bool b) rest) :
      Spells (.bool b) cs rest
  | int {cs rest : List Char} (i : Int) (h : skipBlanks cs = writeInt i rest)
      (ended : Numeral.Ended rest) : Spells (.int i) cs rest
  | string {cs rest : List Char} (s : String) (h : skipBlanks cs = writeString s rest) :
      Spells (.string s) cs rest
  | emptyArray {cs cs₁ rest : List Char} (opened : skipBlanks cs = '[' :: cs₁)
      (closed : skipBlanks cs₁ = ']' :: rest) : Spells (.array []) cs rest
  | array {cs cs₁ cs₂ rest : List Char} {j : Json} {items : List Json}
      (opened : skipBlanks cs = '[' :: cs₁) (first : Spells j cs₁ cs₂)
      (more : SpellsItems items cs₂ rest) : Spells (.array (j :: items)) cs rest
  | emptyObject {cs cs₁ rest : List Char} (opened : skipBlanks cs = '\x7b' :: cs₁)
      (closed : skipBlanks cs₁ = '\x7d' :: rest) : Spells (.object []) cs rest
  | object {cs cs₁ cs₂ rest : List Char} {key : String} {j : Json}
      {fields : List (String × Json)} (opened : skipBlanks cs = '\x7b' :: cs₁)
      (first : SpellsField key j cs₁ cs₂) (more : SpellsFields fields cs₂ rest) :
      Spells (.object ((key, j) :: fields)) cs rest

/-- The further items of an array and its end. -/
inductive SpellsItems : List Json → (text rest : List Char) → Prop where
  | close {cs rest : List Char} (closed : skipBlanks cs = ']' :: rest) : SpellsItems [] cs rest
  | item {cs cs₁ cs₂ rest : List Char} {j : Json} {items : List Json}
      (comma : skipBlanks cs = ',' :: cs₁) (item : Spells j cs₁ cs₂)
      (more : SpellsItems items cs₂ rest) : SpellsItems (j :: items) cs rest

/-- A field of an object. -/
inductive SpellsField : String → Json → (text rest : List Char) → Prop where
  | field {cs cs₁ cs₂ rest : List Char} {key : String} {j : Json}
      (named : skipBlanks cs = writeString key cs₁) (colon : skipBlanks cs₁ = ':' :: cs₂)
      (value : Spells j cs₂ rest) : SpellsField key j cs rest

/-- The further fields of an object and its end. -/
inductive SpellsFields : List (String × Json) → (text rest : List Char) → Prop where
  | close {cs rest : List Char} (closed : skipBlanks cs = '\x7d' :: rest) :
      SpellsFields [] cs rest
  | field {cs cs₁ cs₂ rest : List Char} {key : String} {j : Json}
      {fields : List (String × Json)} (comma : skipBlanks cs = ',' :: cs₁)
      (field : SpellsField key j cs₁ cs₂) (more : SpellsFields fields cs₂ rest) :
      SpellsFields ((key, j) :: fields) cs rest

end

/-! ### Texts are used up -/

theorem length_skipBlanks (cs : List Char) : (skipBlanks cs).length ≤ cs.length :=
  (List.dropWhile_sublist isBlank).length_le

/-- A token uses up its own characters and the blanks in front of it. -/
theorem length_lt_of_token {c : Char} {cs rest : List Char} (h : skipBlanks cs = c :: rest) :
    rest.length < cs.length := by
  have hle := length_skipBlanks cs
  rw [h] at hle
  exact hle

theorem length_lt_writeChar (c : Char) (rest : List Char) :
    rest.length < (writeChar c rest).length := by
  unfold writeChar
  repeat' split
  all_goals simp only [List.length_cons]; omega

theorem length_lt_writeChars (letters rest : List Char) :
    rest.length < (writeChars letters rest).length := by
  induction letters with
  | nil => exact Nat.lt_succ_self _
  | cons c letters ih => exact Nat.lt_trans ih (length_lt_writeChar c _)

theorem length_lt_writeInt (i : Int) (rest : List Char) :
    rest.length < (writeInt i rest).length := by
  have hpos : 0 < (Nat.toDigits 10 i.natAbs).length := Nat.length_toDigits_pos
  unfold writeInt
  split <;> simp only [List.length_cons, List.length_append] <;> omega

mutual

theorem Spells.length_lt : ∀ {j : Json} {cs rest : List Char},
    Spells j cs rest → rest.length < cs.length
  | _, _, _, .null h => Nat.lt_of_le_of_lt (Nat.le_add_right _ 3) (length_lt_of_token h)
  | _, _, _, .bool true h => Nat.lt_of_le_of_lt (Nat.le_add_right _ 3) (length_lt_of_token h)
  | _, _, _, .bool false h => Nat.lt_of_le_of_lt (Nat.le_add_right _ 4) (length_lt_of_token h)
  | _, cs, rest, .int i h _ => by
      have hle := length_skipBlanks cs
      rw [h] at hle
      exact Nat.lt_of_lt_of_le (length_lt_writeInt i rest) hle
  | _, _, _, .string s h =>
      Nat.lt_trans (length_lt_writeChars _ _) (length_lt_of_token h)
  | _, _, _, .emptyArray opened closed =>
      Nat.lt_trans (length_lt_of_token closed) (length_lt_of_token opened)
  | _, _, _, .array opened first more =>
      Nat.lt_trans more.length_lt (Nat.lt_trans first.length_lt (length_lt_of_token opened))
  | _, _, _, .emptyObject opened closed =>
      Nat.lt_trans (length_lt_of_token closed) (length_lt_of_token opened)
  | _, _, _, .object opened first more =>
      Nat.lt_trans more.length_lt (Nat.lt_trans first.length_lt (length_lt_of_token opened))

theorem SpellsItems.length_lt : ∀ {items : List Json} {cs rest : List Char},
    SpellsItems items cs rest → rest.length < cs.length
  | _, _, _, .close closed => length_lt_of_token closed
  | _, _, _, .item comma item more =>
      Nat.lt_trans more.length_lt (Nat.lt_trans item.length_lt (length_lt_of_token comma))

theorem SpellsField.length_lt : ∀ {key : String} {j : Json} {cs rest : List Char},
    SpellsField key j cs rest → rest.length < cs.length
  | _, _, _, _, .field named colon value =>
      Nat.lt_trans value.length_lt (Nat.lt_trans (length_lt_of_token colon)
        (Nat.lt_trans (length_lt_writeChars _ _) (length_lt_of_token named)))

theorem SpellsFields.length_lt : ∀ {fields : List (String × Json)} {cs rest : List Char},
    SpellsFields fields cs rest → rest.length < cs.length
  | _, _, _, .close closed => length_lt_of_token closed
  | _, _, _, .field comma field more =>
      Nat.lt_trans more.length_lt (Nat.lt_trans field.length_lt (length_lt_of_token comma))

end

/-! ### Texts are scanned

A scan spends fuel on every value and on every item or field, and each of these starts
with a character of its own.  Twice the length of a text is therefore enough for a
value, and one more for the rest of an array or an object.
-/

theorem skipBlanks_skipBlanks (cs : List Char) : skipBlanks (skipBlanks cs) = skipBlanks cs :=
  List.dropWhile_idempotent isBlank cs

/-- Blanks in front of a value make no difference. -/
theorem scan_skipBlanks (fuel : Nat) (cs : List Char) :
    Node.scan fuel (skipBlanks cs) = Node.scan fuel cs := by
  cases fuel with
  | zero => rfl
  | succ fuel => rw [Node.scan, Node.scan, skipBlanks_skipBlanks]

theorem scanItems_skipBlanks (fuel : Nat) (cs : List Char) :
    Node.scanItems fuel (skipBlanks cs) = Node.scanItems fuel cs := by
  cases fuel with
  | zero => rfl
  | succ fuel => rw [Node.scanItems, Node.scanItems, scan_skipBlanks]

theorem scanFields_skipBlanks (fuel : Nat) (cs : List Char) :
    Node.scanFields fuel (skipBlanks cs) = Node.scanFields fuel cs := by
  cases fuel with
  | zero => rfl
  | succ fuel => rw [Node.scanFields, Node.scanFields, skipBlanks_skipBlanks]

/-- An integer starts with a digit or a minus sign. -/
theorem writeInt_head (i : Int) (rest : List Char) :
    ∃ c tail, writeInt i rest = c :: tail ∧ (c = '-' ∨ c.isDigit = true) := by
  unfold writeInt
  split
  · exact ⟨'-', _, rfl, .inl rfl⟩
  · obtain ⟨d, ds, hds, hdigit⟩ := Numeral.toDigits_head i.natAbs
    exact ⟨d, ds ++ rest, by rw [hds]; rfl, .inr hdigit⟩

/-- Where an integer starts, nothing else does. -/
theorem scan_writeInt {cs rest : List Char} {i : Int} (h : skipBlanks cs = writeInt i rest)
    (ended : Numeral.Ended rest) (fuel : Nat) :
    Node.scan (fuel + 1) cs = (.number (.ofInt i), rest) := by
  obtain ⟨c, tail, hcons, hc⟩ := writeInt_head i rest
  rw [Node.scan, h]
  split <;> rename_i hmatch
  -- Every other token starts with a character that is neither a digit nor a minus sign.
  all_goals first
    | rw [Numeral.scan?_writeInt ended]
    | (rw [hcons] at hmatch
       cases (List.cons.inj hmatch).1
       exact absurd hc (by decide))

/-- A value does not start like the end of an array. -/
theorem Spells.not_closed {j : Json} {cs rest : List Char} (h : Spells j cs rest)
    (tail : List Char) : skipBlanks cs ≠ ']' :: tail := by
  have hother {c : Char} {other : List Char} (h : skipBlanks cs = c :: other) (hc : c ≠ ']') :
      skipBlanks cs ≠ ']' :: tail := by
    rw [h]
    exact fun heq => hc (List.cons.inj heq).1
  cases h with
  | null h => exact hother h (by decide)
  | bool b h => cases b <;> exact hother h (by decide)
  | int i h =>
      obtain ⟨c, _, hcons, hc⟩ := writeInt_head i rest
      refine hother (h.trans hcons) ?_
      rintro rfl
      exact absurd hc (by decide)
  | string s h => exact hother h (by decide)
  | emptyArray opened | array opened | emptyObject opened | object opened =>
      exact hother opened (by decide)

/-- There is fuel for a text that is not empty. -/
theorem fuel_succ {cs rest : List Char} {fuel : Nat} (hlt : rest.length < cs.length)
    (hfuel : 2 * cs.length ≤ fuel) : ∃ n, fuel = n + 1 :=
  Nat.exists_eq_add_one.mpr (by omega)

mutual

-- By the derivation of the text.  The rest of an array is scanned together with the item
-- in front of it, so the scan of that item is a hypothesis there; likewise for fields.
/-- A text that spells a value is scanned as the value, up to what follows it. -/
theorem Spells.scan : ∀ {j : Json} {cs rest : List Char}, Spells j cs rest →
    ∀ {fuel : Nat}, 2 * cs.length ≤ fuel → Node.scan fuel cs = (j.node, rest)
  | _, _, _, .null h, fuel, hfuel => by
      obtain ⟨fuel, rfl⟩ := fuel_succ (Spells.null h).length_lt hfuel
      rw [Node.scan, h]
      rfl
  | _, _, _, .bool b h, fuel, hfuel => by
      obtain ⟨fuel, rfl⟩ := fuel_succ (Spells.bool b h).length_lt hfuel
      rw [Node.scan, h]
      cases b <;> rfl
  | _, _, _, .int i h ended, fuel, hfuel => by
      obtain ⟨fuel, rfl⟩ := fuel_succ (Spells.int i h ended).length_lt hfuel
      exact scan_writeInt h ended fuel
  | _, _, _, .string s h, fuel, hfuel => by
      obtain ⟨fuel, rfl⟩ := fuel_succ (Spells.string s h).length_lt hfuel
      rw [Node.scan, h]
      simp only [writeString, scanUnits?_writeChars, Node.textOfUnits_toNat]
      rfl
  | _, _, _, .emptyArray opened closed, fuel, hfuel => by
      obtain ⟨fuel, rfl⟩ := fuel_succ (Spells.emptyArray opened closed).length_lt hfuel
      rw [Node.scan, opened]
      simp only [closed]
      rfl
  | _, _, _, .array opened first more, fuel, hfuel => by
      have hlt := length_lt_of_token opened
      obtain ⟨fuel, rfl⟩ := fuel_succ hlt hfuel
      have hitems := more.scan (fun {_} => first.scan) first.length_lt
        (show _ ≤ fuel by omega)
      rw [← scanItems_skipBlanks] at hitems
      rw [Node.scan, opened]
      simp only
      split
      · next h => exact absurd h (first.not_closed _)
      · rw [hitems]
        rfl
  | _, _, _, .emptyObject opened closed, fuel, hfuel => by
      obtain ⟨fuel, rfl⟩ := fuel_succ (Spells.emptyObject opened closed).length_lt hfuel
      rw [Node.scan, opened]
      simp only [closed]
      rfl
  | _, _, _, .object opened (.field named colon value) more, fuel, hfuel => by
      have hlt := length_lt_of_token opened
      obtain ⟨fuel, rfl⟩ := fuel_succ hlt hfuel
      have hfields := more.scan named colon (fun {_} => value.scan) value.length_lt
        (show _ ≤ fuel by omega)
      rw [← scanFields_skipBlanks] at hfields
      rw [named, writeString] at hfields
      rw [Node.scan, opened]
      simp only [named, writeString, hfields]
      rfl

theorem SpellsItems.scan : ∀ {items : List Json} {cs₁ rest : List Char},
    SpellsItems items cs₁ rest → ∀ {j : Json} {cs : List Char},
      (∀ {fuel : Nat}, 2 * cs.length ≤ fuel → Node.scan fuel cs = (j.node, cs₁)) →
      cs₁.length < cs.length →
      ∀ {fuel : Nat}, 2 * cs.length + 1 ≤ fuel →
        Node.scanItems fuel cs = (j.node :: nodes items, true, rest)
  | _, _, _, .close closed, j, cs, hfirst, _, fuel, hfuel => by
      obtain ⟨fuel, rfl⟩ : ∃ n, fuel = n + 1 := Nat.exists_eq_add_one.mpr (by omega)
      have hscan := hfirst (show 2 * cs.length ≤ fuel by omega)
      simp only [Node.scanItems, hscan, closed, nodes]
  | _, _, _, .item comma item more, j, cs, hfirst, hlt, fuel, hfuel => by
      have hcomma := length_lt_of_token comma
      obtain ⟨fuel, rfl⟩ : ∃ n, fuel = n + 1 := Nat.exists_eq_add_one.mpr (by omega)
      have hscan := hfirst (show 2 * cs.length ≤ fuel by omega)
      have hmore := more.scan (fun {_} => item.scan) item.length_lt (show _ ≤ fuel by omega)
      simp only [Node.scanItems, hscan, comma, hmore, nodes]

theorem SpellsFields.scan : ∀ {fields : List (String × Json)} {cs₃ rest : List Char},
    SpellsFields fields cs₃ rest → ∀ {key : String} {j : Json} {cs cs₁ cs₂ : List Char},
      skipBlanks cs = writeString key cs₁ → skipBlanks cs₁ = ':' :: cs₂ →
      (∀ {fuel : Nat}, 2 * cs₂.length ≤ fuel → Node.scan fuel cs₂ = (j.node, cs₃)) →
      cs₃.length < cs₂.length →
      ∀ {fuel : Nat}, 2 * cs.length + 1 ≤ fuel →
        Node.scanFields fuel cs = ((some key, j.node) :: fieldNodes fields, true, rest)
  | _, _, _, .close closed, key, j, cs, cs₁, cs₂, named, colon, hvalue, _, fuel, hfuel => by
      have hkey := Nat.lt_trans (length_lt_writeChars _ _) (length_lt_of_token named)
      have hcolon := length_lt_of_token colon
      obtain ⟨fuel, rfl⟩ : ∃ n, fuel = n + 1 := Nat.exists_eq_add_one.mpr (by omega)
      have hscan := hvalue (show 2 * cs₂.length ≤ fuel by omega)
      simp only [Node.scanFields, named, writeString, scanUnits?_writeChars,
        Node.textOfUnits_toNat, colon, hscan, closed, fieldNodes]
  | _, _, _, .field comma (.field named' colon' value') more, key, j, cs, cs₁, cs₂, named, colon,
      hvalue, hlt, fuel, hfuel => by
      have hkey := Nat.lt_trans (length_lt_writeChars _ _) (length_lt_of_token named)
      have hcolon := length_lt_of_token colon
      have hcomma := length_lt_of_token comma
      obtain ⟨fuel, rfl⟩ : ∃ n, fuel = n + 1 := Nat.exists_eq_add_one.mpr (by omega)
      have hscan := hvalue (show 2 * cs₂.length ≤ fuel by omega)
      have hmore := more.scan named' colon' (fun {_} => value'.scan) value'.length_lt
        (show _ ≤ fuel by omega)
      simp only [Node.scanFields, named, writeString, scanUnits?_writeChars,
        Node.textOfUnits_toNat, colon, hscan, comma, hmore, fieldNodes]

end

/-- A text that spells a value, and nothing but blanks behind it, says the value. -/
theorem Spells.ofText {j : Json} {text : String} {rest : List Char}
    (h : Spells j text.toList rest) (hrest : skipBlanks rest = []) :
    Node.ofText text = (j.node, true) := by
  rw [Node.ofText, Node.ofChars, h.scan (Nat.le_add_right _ 2)]
  simp only [hrest, List.isEmpty_nil]

/-! ### The two written forms -/

theorem Spells.of_skipBlanks {j : Json} {cs cs' rest : List Char}
    (h : skipBlanks cs' = skipBlanks cs) (hspells : Spells j cs rest) : Spells j cs' rest := by
  cases hspells with
  | null hcs => exact .null (h.trans hcs)
  | bool b hcs => exact .bool b (h.trans hcs)
  | int i hcs ended => exact .int i (h.trans hcs) ended
  | string s hcs => exact .string s (h.trans hcs)
  | emptyArray opened closed => exact .emptyArray (h.trans opened) closed
  | array opened first more => exact .array (h.trans opened) first more
  | emptyObject opened closed => exact .emptyObject (h.trans opened) closed
  | object opened first more => exact .object (h.trans opened) first more

theorem skipBlanks_space (rest : List Char) : skipBlanks (' ' :: rest) = skipBlanks rest := rfl

theorem skipBlanks_newline (depth : Nat) (rest : List Char) :
    skipBlanks (newline depth rest) = skipBlanks rest := by
  have hspaces : ∀ n, skipBlanks (List.replicate n ' ' ++ rest) = skipBlanks rest := by
    intro n
    induction n with
    | zero => rfl
    | succ n ih => exact ih
  exact hspaces (2 * depth)

theorem skipBlanks_writeInt (i : Int) (rest : List Char) :
    skipBlanks (writeInt i rest) = writeInt i rest := by
  obtain ⟨c, tail, hcons, hc⟩ := writeInt_head i rest
  have hblank : isBlank c = false := by
    rw [isBlank]
    simp only [Bool.or_eq_false_iff, decide_eq_false_iff_not]
    refine ⟨⟨⟨?_, ?_⟩, ?_⟩, ?_⟩ <;> rintro rfl <;> exact absurd hc (by decide)
  rw [hcons, skipBlanks, List.dropWhile_cons_of_neg (by simp [hblank])]

theorem ended_cons {c : Char} (rest : List Char)
    (h : c.isDigit = false ∧ c ≠ '.' ∧ c ≠ 'e' ∧ c ≠ 'E' := by decide) :
    Numeral.Ended (c :: rest) := by
  intro d hd
  cases hd
  exact h

theorem ended_nil : Numeral.Ended [] := fun _ h => nomatch h

theorem ended_writeItems (items : List Json) (rest : List Char) :
    Numeral.Ended (writeItems items rest) := by
  cases items <;> exact ended_cons _

theorem ended_writeFields (fields : List (String × Json)) (rest : List Char) :
    Numeral.Ended (writeFields fields rest) := by
  cases fields <;> exact ended_cons _

mutual

/-- The compact form of a value spells it. -/
theorem spells_write : ∀ (j : Json) {rest : List Char}, Numeral.Ended rest →
    Spells j (j.write rest) rest
  | .null, _, _ => .null rfl
  | .bool b, _, _ => .bool b (by cases b <;> rfl)
  | .int i, rest, ended => .int i (skipBlanks_writeInt i rest) ended
  | .string s, _, _ => .string s rfl
  | .array [], _, _ => .emptyArray rfl rfl
  | .array (j :: items), rest, _ =>
      .array rfl (spells_write j (ended_writeItems items rest)) (spells_writeItems items rest)
  | .object [], _, _ => .emptyObject rfl rfl
  | .object ((_, j) :: fields), rest, _ =>
      .object rfl (.field rfl rfl (spells_write j (ended_writeFields fields rest)))
        (spells_writeFields fields rest)

theorem spells_writeItems : ∀ (items : List Json) (rest : List Char),
    SpellsItems items (writeItems items rest) rest
  | [], _ => .close rfl
  | j :: items, rest =>
      .item rfl (spells_write j (ended_writeItems items rest)) (spells_writeItems items rest)

theorem spells_writeFields : ∀ (fields : List (String × Json)) (rest : List Char),
    SpellsFields fields (writeFields fields rest) rest
  | [], _ => .close rfl
  | (_, j) :: fields, rest =>
      .field rfl (.field rfl rfl (spells_write j (ended_writeFields fields rest)))
        (spells_writeFields fields rest)

end

theorem spells_compact (j : Json) : Spells j j.compact.toList [] := by
  rw [compact, String.toList_ofList]
  exact spells_write j ended_nil

theorem ended_writePrettyItems (depth : Nat) (items : List Json) (rest : List Char) :
    Numeral.Ended (writePrettyItems depth items rest) := by
  cases items <;> exact ended_cons _

theorem ended_writePrettyFields (depth : Nat) (fields : List (String × Json)) (rest : List Char) :
    Numeral.Ended (writePrettyFields depth fields rest) := by
  cases fields <;> exact ended_cons _

mutual

/-- The indented form of a value spells it. -/
theorem spells_writePretty : ∀ (depth : Nat) (j : Json) {rest : List Char}, Numeral.Ended rest →
    Spells j (writePretty depth j rest) rest
  | _, .null, _, _ => .null rfl
  | _, .bool b, _, _ => .bool b (by cases b <;> rfl)
  | _, .int i, rest, ended => .int i (skipBlanks_writeInt i rest) ended
  | _, .string s, _, _ => .string s rfl
  | _, .array [], _, _ => .emptyArray rfl rfl
  | depth, .array (j :: items), rest, _ =>
      .array rfl (.of_skipBlanks (skipBlanks_newline _ _)
          (spells_writePretty (depth + 1) j (ended_writePrettyItems depth items rest)))
        (spells_writePrettyItems depth items rest)
  | _, .object [], _, _ => .emptyObject rfl rfl
  | depth, .object ((_, j) :: fields), rest, _ =>
      .object rfl (.field (skipBlanks_newline _ _) rfl (.of_skipBlanks (skipBlanks_space _)
          (spells_writePretty (depth + 1) j (ended_writePrettyFields depth fields rest))))
        (spells_writePrettyFields depth fields rest)

theorem spells_writePrettyItems : ∀ (depth : Nat) (items : List Json) (rest : List Char),
    SpellsItems items (writePrettyItems depth items rest) rest
  | _, [], _ => .close (skipBlanks_newline _ _)
  | depth, j :: items, rest =>
      .item rfl (.of_skipBlanks (skipBlanks_newline _ _)
          (spells_writePretty (depth + 1) j (ended_writePrettyItems depth items rest)))
        (spells_writePrettyItems depth items rest)

theorem spells_writePrettyFields :
    ∀ (depth : Nat) (fields : List (String × Json)) (rest : List Char),
      SpellsFields fields (writePrettyFields depth fields rest) rest
  | _, [], _ => .close (skipBlanks_newline _ _)
  | depth, (_, j) :: fields, rest =>
      .field rfl (.field (skipBlanks_newline _ _) rfl (.of_skipBlanks (skipBlanks_space _)
          (spells_writePretty (depth + 1) j (ended_writePrettyFields depth fields rest))))
        (spells_writePrettyFields depth fields rest)

end

theorem spells_pretty (j : Json) : Spells j j.pretty.toList [] := by
  rw [pretty, String.toList_ofList]
  exact spells_writePretty 0 j ended_nil

/-! ### One line -/

/-- No character breaks the line or is another control character. -/
def Inline (cs : List Char) : Prop := ∀ c ∈ cs, 0x20 ≤ c.toNat

theorem Inline.nil : Inline [] := fun _ h => nomatch h

theorem Inline.cons {c : Char} {cs : List Char} (h : Inline cs)
    (hc : 0x20 ≤ c.toNat := by decide) : Inline (c :: cs) :=
  List.forall_mem_cons.mpr ⟨hc, h⟩

theorem Inline.append {front cs : List Char} (h : Inline cs) (hfront : Inline front) :
    Inline (front ++ cs) :=
  List.forall_mem_append.mpr ⟨hfront, h⟩

theorem inline_toDigits (n : Nat) : Inline (Nat.toDigits 10 n) := by
  intro c hc
  have hdigit : c.isDigit = true := Numeral.isDigit_of_mem_toDigits hc
  simp only [Char.isDigit, Bool.and_eq_true, decide_eq_true_eq, ge_iff_le] at hdigit
  have hle : '0'.toNat ≤ c.toNat := hdigit.1
  exact Nat.le_trans (by decide) hle

theorem Inline.writeInt {rest : List Char} (h : Inline rest) (i : Int) :
    Inline (writeInt i rest) := by
  unfold Json.writeInt
  split
  · exact (h.append (inline_toDigits _)).cons
  · exact h.append (inline_toDigits _)

theorem inline_hexDigit {n : Nat} (h : n < 16) : 0x20 ≤ (hexDigit n).toNat := by
  have hall : ∀ n < 16, 0x20 ≤ (hexDigit n).toNat := by decide
  exact hall n h

theorem Inline.writeChar {rest : List Char} (h : Inline rest) (c : Char) :
    Inline (writeChar c rest) := by
  unfold Json.writeChar
  iterate 7
    split
    · exact h.cons.cons
  split
  · next hcontrol =>
      have hlow := inline_hexDigit (Nat.mod_lt c.toNat (show 16 > 0 by decide))
      have hhigh := inline_hexDigit (show c.toNat / 16 < 16 by omega)
      exact ((h.cons hlow).cons hhigh).cons.cons.cons.cons
  · next hcontrol => exact h.cons (Nat.le_of_not_lt hcontrol)

theorem Inline.writeString {rest : List Char} (h : Inline rest) (s : String) :
    Inline (writeString s rest) := by
  have hchars : ∀ cs, Inline (writeChars cs rest) := by
    intro cs
    induction cs with
    | nil => exact h.cons
    | cons c cs ih => exact ih.writeChar c
  exact (hchars s.toList).cons

mutual

/-- The compact form of a value adds no control characters. -/
theorem Inline.write : ∀ (j : Json) {rest : List Char}, Inline rest → Inline (j.write rest)
  | .null, _, h => h.cons.cons.cons.cons
  | .bool true, _, h => h.cons.cons.cons.cons
  | .bool false, _, h => h.cons.cons.cons.cons.cons
  | .int i, _, h => h.writeInt i
  | .string s, _, h => h.writeString s
  | .array [], _, h => h.cons.cons
  | .array (j :: items), _, h => (Inline.write j (Inline.writeItems items h)).cons
  | .object [], _, h => h.cons.cons
  | .object ((key, j) :: fields), _, h =>
      ((Inline.write j (Inline.writeFields fields h)).cons.writeString key).cons

theorem Inline.writeItems : ∀ (items : List Json) {rest : List Char},
    Inline rest → Inline (writeItems items rest)
  | [], _, h => h.cons
  | j :: items, _, h => (Inline.write j (Inline.writeItems items h)).cons

theorem Inline.writeFields : ∀ (fields : List (String × Json)) {rest : List Char},
    Inline rest → Inline (writeFields fields rest)
  | [], _, h => h.cons
  | (key, j) :: fields, _, h =>
      ((Inline.write j (Inline.writeFields fields h)).cons.writeString key).cons

end

theorem inline_compact (j : Json) : Inline j.compact.toList := by
  rw [compact, String.toList_ofList]
  exact Inline.nil.write j

end Beamwalk.Json
