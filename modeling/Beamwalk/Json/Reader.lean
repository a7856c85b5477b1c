/-
Module: Beamwalk.Json.Reader
Purpose: Reading JSON texts as typed values.
Main exports: Json.Source, Json.Reader, Json.Reader.readText, and readers for scalars,
  lists, triples, records, variants and tagged variants
-/
import Beamwalk.Json.Error

namespace Beamwalk.Json

/-!
A value is read either straight from the text or out of a buffer.  Buffering
happens where the type of a value becomes known only after the value has been
passed: the fields of a variant whose tag may come last, and the fields of a
level that are not its own.  A buffered value is complete, so its readers can
say what is wrong with its end; a reader on the text can only find the text
malformed there.
-/

/-- Where a value is read from. -/
inductive Source where
  | text
  | buffer
deriving Repr, Inhabited, DecidableEq

/-- A way to read a value of a type. -/
abbrev Reader (α : Type) := Source → Node → Except ReadError α

namespace Reader

variable {α β δ : Type}

/-- Apply a function to what a reader reads. -/
def map (f : α → β) (reader : Reader α) : Reader β := fun source node =>
  (reader source node).map f

/-- A shape error. -/
def refuse (error : ShapeError) : Except ReadError α := .error (.shape error)

/-- The text is malformed. -/
def malformed : Except ReadError α := .error .malformed

/-- Read a whole text; nothing may follow the value. -/
def readText (reader : Reader α) (text : String) : Except ReadError α :=
  let (node, clean) := Node.ofText text
  match reader .text node with
  | .error e => .error e
  | .ok value => if clean then .ok value else malformed

/-! ### Values that are passed over -/

mutual

/-- A value that can be ignored: its grammar is sound. -/
def intact : Node → Bool
  | .array items closed => intactItems items && closed
  | .object fields closed => intactFields fields && closed
  | .misKeyed | .broken => false
  | _ => true

/-- All items can be ignored. -/
def intactItems : List Node → Bool
  | [] => true
  | item :: items => intact item && intactItems items

/-- All fields can be ignored. -/
def intactFields : List (Option String × Node) → Bool
  | [] => true
  | (_, value) :: fields => intact value && intactFields fields

end

mutual

/-- A value that can be buffered: sound, with numbers and strings that stand
for something, and with no more brackets inside each other than `levels`. -/
def bufferable : (levels : Nat) → Node → Bool
  | _, .null | _, .bool _ => true
  | _, .number numeral =>
      match numeral.reading with
      | .outOfRange => false
      | _ => true
  | _, .string text => text.isSome
  | 0, .array _ _ | 0, .object _ _ => false
  | levels + 1, .array items closed => bufferableItems levels items && closed
  | levels + 1, .object fields closed => bufferableFields levels fields && closed
  | _, .misKeyed | _, .broken => false

/-- All items can be buffered. -/
def bufferableItems : (levels : Nat) → List Node → Bool
  | _, [] => true
  | levels, item :: items => bufferable levels item && bufferableItems levels items

/-- All fields can be buffered. -/
def bufferableFields : (levels : Nat) → List (Option String × Node) → Bool
  | _, [] => true
  | levels, (key, value) :: fields =>
      key.isSome && bufferable levels value && bufferableFields levels fields

end

/-- How many brackets a value inside the outermost object or array may open. -/
def bufferLevels : Nat := 126

/-- Pass a value into the buffer. -/
def toBuffer (source : Source) (value : Node) : Except ReadError Unit :=
  if source = .buffer ∨ bufferable bufferLevels value then .ok () else malformed

/-! ### Scalars -/

/-- `true` or `false`. -/
def bool : Reader Bool
  | _, .bool value => .ok value
  | _, node => .error (mismatch "a boolean" node)

/-- A string. -/
def string : Reader String
  | _, .string (some value) => .ok value
  | _, node => .error (mismatch "a string" node)

/-- A natural number below a limit; `type` is the name of the type in messages. -/
def natBelow (limit : Nat) (type : String) : Reader { n : Nat // n < limit }
  | _, .number numeral =>
      match numeral.reading with
      | .integer value =>
          if h : 0 ≤ value ∧ value < limit then .ok ⟨value.toNat, by omega⟩
          else refuse (.invalidValue (.integer value) type)
      | _ => .error (mismatch type (.number numeral))
  | _, node => .error (mismatch type node)

/-- A number of 64 bits. -/
def word64 : Reader Nat := map Subtype.val (natBelow (Nat.pow 2 64) "u64")

/-- A size or an index. -/
def size : Reader Nat := map Subtype.val (natBelow (Nat.pow 2 64) "usize")

/-- `null` or a value. -/
def option (reader : Reader α) : Reader (Option α)
  | _, .null => .ok none
  | source, node => (reader source node).map some

/-! ### Sequences -/

/-- The words for a number of items. -/
def elements (n : Nat) : String := if n = 1 then "1 element" else s!"{n} elements"

/-- The end of a sequence of which `used` items were wanted. -/
def finishItems (source : Source) (used : Nat) (items : List Node) (closed : Bool) :
    Except ReadError Unit :=
  match source with
  | .text => if items.length = used ∧ closed then .ok () else malformed
  | .buffer =>
      if items.length = used then .ok ()
      else refuse (.invalidLength items.length (elements used ++ " in sequence"))

/-- A sequence that is too short. -/
def shortOf (found : Nat) (closed : Bool) (expected : String) : ReadError :=
  if closed then .shape (.invalidLength found expected) else .malformed

/-- Read items in order. -/
def readItems (reader : Reader α) (source : Source) : List Node → Except ReadError (List α)
  | [] => .ok []
  | item :: items =>
      match reader source item with
      | .error e => .error e
      | .ok value => (readItems reader source items).map (value :: ·)

/-- Any number of items. -/
def list (reader : Reader α) : Reader (List α)
  | source, .array items closed =>
      match readItems reader source items with
      | .error e => .error e
      | .ok values => if closed then .ok values else malformed
  | _, node => .error (mismatch "a sequence" node)

/-- Exactly three items. -/
def triple (reader : Reader α) : Reader (α × α × α)
  | source, .array items closed =>
      match readItems reader source (items.take 3) with
      | .error e => .error e
      | .ok [a, b, c] => (finishItems source 3 items closed).map fun _ => (a, b, c)
      | .ok values => .error (shortOf values.length closed "an array of length 3")
  | _, node => .error (mismatch "an array of length 3" node)

/-! ### Records

A record is read into a draft, a structure with a place for each field.  Its
fields may come in any order and mixed with fields it does not know, which are
passed over; no known field may come twice.  It may also be written as the
sequence of its fields.
-/

/-- A field of a record. -/
structure Slot (δ : Type) where
  name : String
  /-- A sequence of the fields cannot end before it. -/
  required : Bool
  /-- The draft has it already. -/
  isFilled : δ → Bool
  fill : Source → Node → δ → Except ReadError δ

/-- A field with a reader for its value. -/
def slot (name : String) (required : Bool) (reader : Reader α) (get : δ → Option α)
    (set : δ → α → δ) : Slot δ where
  name := name
  required := required
  isFilled draft := (get draft).isSome
  fill source node draft := (reader source node).map (set draft)

/-- Take the fields of an object into a draft, in the order of the text. -/
def fillFields (slots : List (Slot δ)) (source : Source) :
    List (Option String × Node) → δ → Except ReadError δ
  | [], draft => .ok draft
  | (none, _) :: _, _ => malformed
  | (some key, value) :: rest, draft =>
      match slots.find? (·.name = key) with
      | some slot =>
          if slot.isFilled draft then refuse (.duplicateField key)
          else
            match slot.fill source value draft with
            | .error e => .error e
            | .ok draft => fillFields slots source rest draft
      | none => if intact value then fillFields slots source rest draft else malformed

/-- Take the items of a sequence into a draft, one for each slot; `index`
counts the slots that are done. -/
def fillItems (source : Source) (closed : Bool) (expected : String) :
    (index : Nat) → List (Slot δ) → List Node → δ → Except ReadError δ
  | _, [], _, draft => .ok draft
  | index, slot :: slots, [], draft =>
      if !closed then malformed
      else if slot.required then refuse (.invalidLength index expected)
      else fillItems source closed expected (index + 1) slots [] draft
  | index, slot :: slots, item :: items, draft =>
      match slot.fill source item draft with
      | .error e => .error e
      | .ok draft => fillItems source closed expected (index + 1) slots items draft

/-- A field that a record cannot do without. -/
def need (name : String) : Option α → Except ReadError α
  | some value => .ok value
  | none => refuse (.missingField name)

/-- Read a record by its slots, starting from an empty draft; `type` is the
name of the type in messages. -/
def record (type : String) (slots : List (Slot δ)) (draft : δ)
    (finish : δ → Except ReadError α) : Reader α
  | source, .object fields closed =>
      match fillFields slots source fields draft with
      | .error e => .error e
      | .ok draft => if closed then finish draft else malformed
  | source, .array items closed =>
      match fillItems source closed (type ++ " with " ++ elements slots.length) 0 slots items
          draft with
      | .error e => .error e
      | .ok draft =>
          -- Absent optional fields need no item.
          if items.length < slots.length then finish draft
          else
            match finishItems source slots.length items closed with
            | .error e => .error e
            | .ok () => finish draft
  | _, .misKeyed => malformed
  | _, node => .error (mismatch type node)

/-! ### Variants

A variant is written as its name, or as an object whose only key is the name.
-/

/-- What a variant carries. -/
inductive Payload (α : Type) where
  | unit (value : α)
  | value (reader : Reader α)

/-- A variant by its name. -/
abbrev Variants (α : Type) := List (String × Payload α)

/-- Find a variant by its name. -/
def variant (variants : Variants α) (name : String) : Except ReadError (Payload α) :=
  match variants.lookup name with
  | some payload => .ok payload
  | none => refuse (.unknownVariant name (variants.map Prod.fst))

/-- Read what a bare name leaves to be read. -/
def readBare : Payload α → Except ReadError α
  | .unit value => .ok value
  | .value _ => refuse (.invalidType .unitVariant "newtype variant")

/-- Read what stands beside the name of a variant. -/
def readPayload (source : Source) (node : Node) : Payload α → Except ReadError α
  | .unit value =>
      match source, node with
      | _, .null => .ok value
      | .buffer, .object [] _ => .ok value
      | _, node => .error (mismatch "unit" node)
  | .value reader => reader source node

/-- One of several variants. -/
def oneOf (variants : Variants α) : Reader α
  | _, .string (some name) => variant variants name >>= readBare
  | .text, .object ((some name, value) :: rest) closed => do
      let payload ← variant variants name
      let result ← readPayload .text value payload
      if rest.isEmpty && closed then .ok result else malformed
  | .text, _ => malformed
  | .buffer, .object [(some name, value)] _ =>
      variant variants name >>= readPayload .buffer value
  | .buffer, .object _ _ => refuse (.invalidValue .map "map with a single key")
  | .buffer, node => .error (mismatch "string or map" node)

/-- One of several names. -/
def name (names : List (String × α)) : Reader α :=
  oneOf (names.map fun entry => (entry.1, .unit entry.2))

/-! ### Tagged variants

A tagged variant is an object in which one field, the tag, names the variant;
the other fields are those of the variant.  It may also be written as a
sequence that starts with the tag.  Whatever is not the tag is buffered.
-/

/-- What follows from a tag: a reader for the rest. -/
abbrev Tagged (α : Type) := List (String × Reader α)

/-- The variant of a tag.  Out of a buffer it may also be named by its number. -/
def tagged? (variants : Tagged α) : Reader (Reader α)
  | _, .string (some name) =>
      match variants.lookup name with
      | some reader => .ok reader
      | none => refuse (.unknownVariant name (variants.map Prod.fst))
  | .buffer, .number numeral =>
      match numeral.reading with
      | .integer value =>
          if 0 ≤ value then
            match variants[value.toNat]? with
            | some entry => .ok entry.2
            | none =>
                refuse (.invalidValue (.integer value)
                  s!"variant index 0 <= i < {variants.length}")
          else .error (mismatch "variant identifier" (.number numeral))
      | _ => .error (mismatch "variant identifier" (.number numeral))
  | _, node => .error (mismatch "variant identifier" node)

/-- Part the fields of an object into its tag and the others. -/
def partFields (tag : String) (variants : Tagged α) (source : Source) :
    List (Option String × Node) → Option (Reader α) →
      Except ReadError (Option (Reader α) × List (Option String × Node))
  | [], found => .ok (found, [])
  | (none, _) :: _, _ => malformed
  | (some key, value) :: rest, found =>
      if key = tag then
        if found.isSome then refuse (.duplicateField tag)
        else
          match tagged? variants source value with
          | .error e => .error e
          | .ok reader => partFields tag variants source rest (some reader)
      else
        match toBuffer source value with
        | .error e => .error e
        | .ok () =>
            (partFields tag variants source rest found).map fun (found, fields) =>
              (found, (some key, value) :: fields)

/-- Pass several values into the buffer. -/
def bufferItems (source : Source) : List Node → Except ReadError Unit
  | [] => .ok ()
  | item :: items =>
      match toBuffer source item with
      | .error e => .error e
      | .ok () => bufferItems source items

/-- One of several tagged variants; `type` is the name of the type in messages. -/
def taggedBy (type tag : String) (variants : Tagged α) : Reader α
  | source, .object fields closed =>
      match partFields tag variants source fields none with
      | .error e => .error e
      | .ok (found, fields) =>
          if !closed then malformed
          else
            match found with
            | none => refuse (.missingField tag)
            | some reader => reader .buffer (.object fields true)
  | _, .array [] closed => if closed then refuse (.missingField tag) else malformed
  | source, .array (first :: items) closed =>
      match tagged? variants source first with
      | .error e => .error e
      | .ok reader =>
          match bufferItems source items with
          | .error e => .error e
          | .ok () => if closed then reader .buffer (.array items true) else malformed
  | _, .misKeyed => malformed
  | _, node => .error (mismatch ("internally tagged enum " ++ type) node)

/-- The rest of a variant without fields: whatever an object holds beside the
tag is ignored, but a sequence must end. -/
def nothingMore (value : α) : Reader α
  | _, .array items _ => (finishItems .buffer 0 items true).map fun _ => value
  | _, _ => .ok value

end Reader

end Beamwalk.Json
