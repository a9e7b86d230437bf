import Kindred.Json.Value
import Kindred.Text.Quoted

/-! Why a JSON value is no record of the wanted kind. -/

namespace Kindred.Record

open Json

/-- What a value is, as far as an error tells. -/
inductive Found where
  | scalar (value : Scalar)
  | sequence
  | map
deriving DecidableEq, Repr

/-- What a value is. -/
def Found.of : Value → Found
  | .scalar value => .scalar value
  | .array _ => .sequence
  | .object _ => .map

/-- A word between marks that set it off. -/
def marked (word : String) : String :=
  "`" ++ word ++ "`"

/-- A value in words. -/
def Found.description : Found → String
  | .scalar .null => "null"
  | .scalar (.bool value) => "boolean " ++ marked (if value then "true" else "false")
  | .scalar (.number (.real isNegative value)) =>
    "floating point " ++ marked (String.ofList (Number.real isNegative value).text)
  | .scalar (.number value) => "integer " ++ marked (String.ofList value.text)
  | .scalar (.string value) => "string " ++ Text.quoted value
  | .sequence => "sequence"
  | .map => "map"

/-- The first thing about a value that does not fit. What was expected is told in words. -/
inductive DecodeError where
  | missingField (name : String)
  | duplicateField (name : String)
  | unknownVariant (name : String) (known : List String)
  | invalidType (found : Found) (expected : String)
  | invalidValue (found : Found) (expected : String)
  | invalidLength (length : Nat) (expected : String)
  /-- An identifier is a text or a whole number. -/
  | noIdentifier
deriving DecidableEq, Repr

/-- The names of which one was expected. -/
def oneOf : List String → String
  | [name] => marked name
  | [first, second] => marked first ++ " or " ++ marked second
  | names => "one of " ++ ", ".intercalate (names.map marked)

/-- The message of an error. -/
def DecodeError.message : DecodeError → String
  | .missingField name => "missing field " ++ marked name
  | .duplicateField name => "duplicate field " ++ marked name
  | .unknownVariant name known => "unknown variant " ++ marked name ++ ", expected " ++ oneOf known
  | .invalidType found expected =>
    "invalid type: " ++ found.description ++ ", expected " ++ expected
  | .invalidValue found expected =>
    "invalid value: " ++ found.description ++ ", expected " ++ expected
  | .invalidLength length expected =>
    "invalid length " ++ toString length ++ ", expected " ++ expected
  | .noIdentifier => "data did not match any variant of untagged enum RawId"

/-- A reader of one kind of record. -/
abbrev Decoder (α : Type) := Value → Except DecodeError α

end Kindred.Record
