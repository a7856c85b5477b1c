/-
Module: Beamwalk.Json.Error
Purpose: Why a JSON text cannot be read as a value of a type.
Main exports: Found, ShapeError, ShapeError.message, ReadError
-/
import Beamwalk.Decimal.Shortest
import Beamwalk.Json.Node
import Beamwalk.Text.Quoted

namespace Beamwalk.Json

/-- What stands where something else was expected. -/
inductive Found where
  | null
  | bool (value : Bool)
  | integer (value : Int)
  /-- A number that is no integer, by its text. -/
  | real (text : String)
  | string (value : String)
  | sequence
  | map
  /-- The bare name of a variant that carries a value. -/
  | unitVariant
deriving Repr, Inhabited, DecidableEq

/-- A text in backticks. -/
def ticked (s : String) : String := "`" ++ s ++ "`"

namespace Found

/-- The words for it in a message. -/
def text : Found → String
  | .null => "null"
  | .bool value => "boolean " ++ ticked (if value then "true" else "false")
  | .integer value => "integer " ++ ticked (toString value)
  | .real text => "floating point " ++ ticked text
  | .string value => "string " ++ Text.quote value
  | .sequence => "sequence"
  | .map => "map"
  | .unitVariant => "unit variant"

end Found

/-- A well-formed value of the wrong shape. -/
inductive ShapeError where
  | invalidType (found : Found) (expected : String)
  | invalidValue (found : Found) (expected : String)
  | invalidLength (length : Nat) (expected : String)
  | unknownVariant (name : String) (known : List String)
  | missingField (name : String)
  | duplicateField (name : String)
  /-- A list of groups that names none. -/
  | noGroups
deriving Repr, Inhabited, DecidableEq

namespace ShapeError

/-- The names that would have been right. -/
def alternatives : List String → String
  | [a] => "expected " ++ ticked a
  | [a, b] => "expected " ++ ticked a ++ " or " ++ ticked b
  | names => "expected one of " ++ String.intercalate ", " (names.map ticked)

/-- The sentence shown to the author of the text. -/
def message : ShapeError → String
  | .invalidType found expected => s!"invalid type: {found.text}, expected {expected}"
  | .invalidValue found expected => s!"invalid value: {found.text}, expected {expected}"
  | .invalidLength length expected => s!"invalid length {length}, expected {expected}"
  | .unknownVariant name known =>
      "unknown variant " ++ ticked name ++ ", " ++ alternatives known
  | .missingField name => "missing field " ++ ticked name
  | .duplicateField name => "duplicate field " ++ ticked name
  | .noGroups => "a toggle must reference at least one group"

end ShapeError

/-- Why reading stopped. -/
inductive ReadError where
  /-- The text is no JSON, at least not at the place where a value was needed. -/
  | malformed
  /-- The text goes on as JSON but does not fit the type. -/
  | shape (error : ShapeError)
deriving Repr, Inhabited, DecidableEq

/-- The error of meeting a value where something else was expected.  A number
too large for a double and a string with half a surrogate pair are no values at
all. -/
def mismatch (expected : String) : Node → ReadError
  | .null => .shape (.invalidType .null expected)
  | .bool value => .shape (.invalidType (.bool value) expected)
  | .number numeral =>
      match numeral.reading with
      | .integer value => .shape (.invalidType (.integer value) expected)
      | .real value => .shape (.invalidType (.real (Decimal.floatText value)) expected)
      | .outOfRange => .malformed
  | .string (some value) => .shape (.invalidType (.string value) expected)
  | .string none => .malformed
  | .array _ _ => .shape (.invalidType .sequence expected)
  | .object _ _ | .misKeyed => .shape (.invalidType .map expected)
  | .broken => .malformed

end Beamwalk.Json
