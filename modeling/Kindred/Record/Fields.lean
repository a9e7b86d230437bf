import Kindred.Record.Error

/-! Reading the parts of a record: from an object by name, or from a list by place. -/

namespace Kindred.Record

open Json

variable {α : Type}

/-- Reads a text. -/
def decodeString : Decoder String
  | .scalar (.string value) => .ok value
  | value => .error (.invalidType (.of value) "a string")

/-- Reads a truth value. -/
def decodeBool : Decoder Bool
  | .scalar (.bool value) => .ok value
  | value => .error (.invalidType (.of value) "a boolean")

/-- Reads a whole number that is not below zero. -/
def decodeNatural : Decoder Nat
  | .scalar (.number (.natural value)) => .ok value
  | .scalar (.number (.negative value)) =>
    .error (.invalidValue (.scalar (.number (.negative value))) "usize")
  | value => .error (.invalidType (.of value) "usize")

/-- Reads nothing from the value that stands for nothing, and otherwise something. -/
def decodeOption (decode : Decoder α) : Decoder (Option α)
  | .scalar .null => .ok none
  | value => (decode value).map some

/-- Reads a list. -/
def decodeList (decode : Decoder α) : Decoder (List α)
  | .array items => items.mapM decode
  | value => .error (.invalidType (.of value) "a sequence")

/-- Reads a member of an object, if it is there. -/
def field? (members : List (String × Value)) (name : String) (decode : Decoder α) :
    Except DecodeError (Option α) :=
  match Value.member? members name with
  | some value => (decode value).map some
  | none => .ok none

/-- What was read of a member that must be there. -/
def required (name : String) : Option α → Except DecodeError α
  | some value => .ok value
  | none => .error (.missingField name)

/-- Reads the next item of a list, if there is one. -/
def item? (decode : Decoder α) : List Value → Except DecodeError (Option α × List Value)
  | [] => .ok (none, [])
  | value :: rest => (decode value).map fun read => (some read, rest)

/-- Reads the next item of a list, after that many others. The error tells what the list should be. -/
def item (decode : Decoder α) (before : Nat) (expected : String) (items : List Value) :
    Except DecodeError (α × List Value) :=
  match items with
  | [] => .error (.invalidLength before expected)
  | value :: rest => (decode value).map fun read => (read, rest)

/-- Nothing may be left of a list once all its parts are read. -/
def noMore (length : Nat) (rest : List Value) : Except DecodeError Unit :=
  if rest.isEmpty then .ok () else .error (.invalidLength length "fewer elements in array")

/-- What a list of that many parts should be, for a list inside a tagged record. -/
def elementsInSequence (count : Nat) : String :=
  if count = 1 then "1 element in sequence" else toString count ++ " elements in sequence"

/-- Nothing may be left of a list inside a tagged record after that many parts. -/
def noMoreThan (count : Nat) (rest : List Value) : Except DecodeError Unit :=
  if rest.isEmpty then .ok ()
  else .error (.invalidLength (count + rest.length) (elementsInSequence count))

/-- The meaning of a name among the known ones. -/
def variant (known : List (String × α)) (name : String) : Except DecodeError α :=
  match known.lookup name with
  | some value => .ok value
  | none => .error (.unknownVariant name (known.map Prod.fst))

/-- Reads a name: as a text, or as an object with that one key and no value under it. -/
def decodeVariant (known : List (String × α)) (isUnit : Value → Bool) : Decoder α
  | .scalar (.string name) => variant known name
  | .object [(name, value)] => do
    let read ← variant known name
    if isUnit value then return read else throw (.invalidType (.of value) "unit")
  | .object _ => .error (.invalidValue .map "map with a single key")
  | value => .error (.invalidType (.of value) "string or map")

/-- The value stands for nothing. -/
def isNull : Value → Bool
  | .scalar .null => true
  | _ => false

/-- The value stands for nothing, or is an object without members. -/
def isNullOrEmpty : Value → Bool
  | .scalar .null => true
  | .object [] => true
  | _ => false

end Kindred.Record
