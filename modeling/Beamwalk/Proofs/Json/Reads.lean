/-
Module: Beamwalk.Proofs.Json.Reads
Purpose: Which readers read a value back from its JSON form, put together as the readers are.
Main exports: Json.Buffers, Json.Reader.Reads, Json.Reader.Fills, Json.Reader.Reads.readText,
  Json.Reader.Reads.record, Json.Reader.Reads.tagged
-/
import Beamwalk.Json.Reader
import Beamwalk.Proofs.Json.Written

namespace Beamwalk.Json

/-! ### Values that can be buffered -/

/-- The value can be buffered inside as many brackets. -/
def Buffers (levels : Nat) (j : Json) : Prop := Reader.bufferable levels j.node = true

@[simp] theorem buffers_null {levels : Nat} : Buffers levels .null := by
  cases levels <;> rfl

@[simp] theorem buffers_bool {levels : Nat} (b : Bool) : Buffers levels (.bool b) := by
  cases levels <;> rfl

@[simp] theorem buffers_string {levels : Nat} (s : String) : Buffers levels (.string s) := by
  cases levels <;> rfl

theorem reading_nat {n : Nat} (h : n < Numeral.wordLimit) :
    (Numeral.ofInt n).reading = .integer n := by
  have hlimit : Numeral.wordLimit = 2 ^ 64 := rfl
  exact Numeral.reading_ofInt (by omega) (by omega)

theorem buffers_nat {levels n : Nat} (h : n < Numeral.wordLimit) : Buffers levels (.nat n) := by
  cases levels <;> simp [Buffers, nat, node, Reader.bufferable, reading_nat h]

theorem bufferableItems_nodes {levels : Nat} (items : List Json) :
    Reader.bufferableItems levels (nodes items) = true ↔ ∀ item ∈ items, Buffers levels item := by
  induction items with
  | nil => simp [nodes, Reader.bufferableItems]
  | cons item items ih => simp [nodes, Reader.bufferableItems, ih, Buffers]

theorem bufferableFields_fieldNodes {levels : Nat} (fields : List (String × Json)) :
    Reader.bufferableFields levels (fieldNodes fields) = true ↔
      ∀ field ∈ fields, Buffers levels field.2 := by
  induction fields with
  | nil => simp [fieldNodes, Reader.bufferableFields]
  | cons field fields ih => simp [fieldNodes, Reader.bufferableFields, ih, Buffers]

@[simp] theorem buffers_array {levels : Nat} {items : List Json} :
    Buffers (levels + 1) (.array items) ↔ ∀ item ∈ items, Buffers levels item := by
  simp [Buffers, node, Reader.bufferable, bufferableItems_nodes]

@[simp] theorem buffers_object {levels : Nat} {fields : List (String × Json)} :
    Buffers (levels + 1) (.object fields) ↔ ∀ field ∈ fields, Buffers levels field.2 := by
  simp [Buffers, node, Reader.bufferable, bufferableFields_fieldNodes]

namespace Reader

variable {α β δ : Type} {reader : Reader α} {j : Json} {a : α}

theorem toBuffer_node (source : Source) (h : Buffers bufferLevels j) :
    toBuffer source j.node = .ok () :=
  if_pos (.inr h)

/-! ### Reading back -/

/-- The reader reads `a` where the text of `j` stands, be it from the text or out
of a buffer. -/
def Reads (reader : Reader α) (j : Json) (a : α) : Prop :=
  ∀ source, reader source j.node = .ok a

/-- Any layout of the value is read. -/
theorem Reads.readText {text : String} (h : Reads reader j a) (hspells : Spells j text.toList []) :
    readText reader text = .ok a := by
  rw [Reader.readText, hspells.ofText rfl]
  simp only [h .text, if_true]

theorem Reads.map (h : Reads reader j a) (f : α → β) : Reads (map f reader) j (f a) := by
  intro source
  rw [Reader.map, h source]
  rfl

theorem reads_bool (b : Bool) : Reads bool (.bool b) b := fun _ => rfl

theorem reads_string (s : String) : Reads string (.string s) s := fun _ => rfl

/-- A number below the limit of a reader is read if it is a number of 64 bits at all. -/
theorem reads_natBelow {limit n : Nat} (type : String) (hword : n < Numeral.wordLimit)
    (h : n < limit) : Reads (natBelow limit type) (.nat n) ⟨n, h⟩ := by
  intro source
  simp [natBelow, nat, node, reading_nat hword, h]

theorem reads_size {n : Nat} (h : n < Numeral.wordLimit) : Reads size (.nat n) n :=
  (reads_natBelow "usize" h h).map Subtype.val

theorem reads_none : Reads (option reader) .null none := fun _ => rfl

theorem Reads.some (h : Reads reader j a) (hvalue : j ≠ .null) :
    Reads (option reader) j (some a) := by
  intro source
  have hread := h source
  cases j with
  | null => exact absurd rfl hvalue
  | _ => exact congrArg (Except.map Option.some) hread

theorem readItems_nodes {as : List α} {f : α → Json} (h : ∀ a ∈ as, Reads reader (f a) a)
    (source : Source) : readItems reader source (nodes (as.map f)) = .ok as := by
  induction as with
  | nil => rfl
  | cons a as ih =>
      rw [List.map_cons, nodes, readItems, h a List.mem_cons_self source,
        ih fun b hb => h b (List.mem_cons_of_mem a hb)]
      rfl

theorem reads_list {as : List α} {f : α → Json} (h : ∀ a ∈ as, Reads reader (f a) a) :
    Reads (list reader) (.array (as.map f)) as := by
  intro source
  simp only [list, node, readItems_nodes h source, if_true]

theorem reads_triple {a b c : α} {f : α → Json} (h : ∀ a, Reads reader (f a) a) :
    Reads (triple reader) (.array [f a, f b, f c]) (a, b, c) := by
  intro source
  have hitems : readItems reader source (nodes ([a, b, c].map f)) = .ok [a, b, c] :=
    readItems_nodes (fun a _ => h a) source
  cases source <;> simp_all [triple, node, nodes, finishItems, Except.map]

/-! ### Variants -/

variable {variants : Variants α} {key : String}

theorem reads_unit (h : variants.lookup key = .some (.unit a)) :
    Reads (oneOf variants) (.string key) a := by
  intro source
  cases source <;> simp [oneOf, node, variant, h, readBare, bind, Except.bind]

theorem Reads.value (h : Reads reader j a) (hlookup : variants.lookup key = .some (.value reader)) :
    Reads (oneOf variants) (.object [(key, j)]) a := by
  intro source
  cases source <;>
    simp [oneOf, node, fieldNodes, variant, hlookup, readPayload, h _, bind, Except.bind]

theorem reads_name {names : List (String × α)} (h : names.lookup key = .some a) :
    Reads (name names) (.string key) a := by
  have hlookup : ∀ names : List (String × α),
      (names.map fun entry => (entry.1, Payload.unit entry.2)).lookup key =
        (names.lookup key).map Payload.unit := by
    intro names
    induction names with
    | nil => rfl
    | cons entry names ih =>
        rw [List.map_cons, List.lookup_cons, List.lookup_cons, ih]
        split <;> rfl
  exact reads_unit (by rw [hlookup, h]; rfl)

/-! ### Records -/

/-- Fields fill a draft one after another: each is the field of a slot that is
still open and has a value for it. -/
inductive Fills (slots : List (Slot δ)) : List (String × Json) → δ → δ → Prop where
  | nil {draft : δ} : Fills slots [] draft draft
  | cons {key : String} {j : Json} {fields : List (String × Json)} {slot : Slot δ}
      {draft draft' final : δ} (known : slots.find? (·.name = key) = some slot)
      (unfilled : slot.isFilled draft = false)
      (fill : ∀ source, slot.fill source j.node draft = .ok draft')
      (rest : Fills slots fields draft' final) : Fills slots ((key, j) :: fields) draft final

variable {slots : List (Slot δ)} {fields : List (String × Json)} {draft final : δ}

theorem Fills.fillFields (h : Fills slots fields draft final) (source : Source) :
    fillFields slots source (fieldNodes fields) draft = .ok final := by
  induction h with
  | nil => rfl
  | cons known unfilled fill rest ih =>
      simp only [fieldNodes, Reader.fillFields, known, unfilled, fill source, ih,
        Bool.false_eq_true, if_false]

/-- A field whose slot reads its value. -/
theorem Fills.slot {required : Bool} {get : δ → Option β} {set : δ → β → δ} {reader : Reader β}
    {b : β} (hread : Reads reader j b)
    (known : slots.find? (·.name = key) = some (slot key required reader get set))
    (unfilled : get draft = none) (rest : Fills slots fields (set draft b) final) :
    Fills slots ((key, j) :: fields) draft final :=
  .cons known (by rw [Reader.slot]; simp [unfilled])
    (fun source => by rw [Reader.slot]; simp [hread source, Except.map]) rest

theorem Fills.reads {type : String} {finish : δ → Except ReadError α}
    (h : Fills slots fields draft final) (hfinish : finish final = .ok a) :
    Reads (record type slots draft finish) (.object fields) a := by
  intro source
  simp only [record, node, h.fillFields source, if_true, hfinish]

/-! ### Tagged variants -/

variable {tag type : String} {tags : Tagged α}

theorem partFields_fieldNodes (tags : Tagged α) (source : Source) (found : Option (Reader α))
    (untagged : ∀ field ∈ fields, field.1 ≠ tag)
    (buffered : ∀ field ∈ fields, Buffers bufferLevels field.2) :
    partFields tag tags source (fieldNodes fields) found = .ok (found, fieldNodes fields) := by
  induction fields with
  | nil => rfl
  | cons field fields ih =>
      rw [List.forall_mem_cons] at untagged buffered
      simp only [fieldNodes, partFields, untagged.1, if_false, toBuffer_node source buffered.1,
        ih untagged.2 buffered.2]
      rfl

/-- A tag in front says how the other fields are read. -/
theorem Reads.tagged (h : Reads reader (.object fields) a)
    (known : tags.lookup key = .some reader) (untagged : ∀ field ∈ fields, field.1 ≠ tag)
    (buffered : ∀ field ∈ fields, Buffers bufferLevels field.2) :
    Reads (taggedBy type tag tags) (.object ((tag, .string key) :: fields)) a := by
  intro source
  have hpart := partFields_fieldNodes tags source (.some reader) untagged buffered
  have hread := h .buffer
  rw [node] at hread
  simp only [taggedBy, node, fieldNodes, partFields, if_true, Option.isSome_none,
    Bool.false_eq_true, if_false, tagged?, known, hpart, Bool.not_true, hread]

theorem reads_nothingMore : Reads (nothingMore a) (.object fields) a := fun _ => rfl

end Reader

end Beamwalk.Json
