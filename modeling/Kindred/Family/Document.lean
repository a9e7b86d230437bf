import Kindred.Json.Reader
import Kindred.Json.Writer
import Kindred.Record.People

/-! The family document: a list of people and a list of links. -/

namespace Kindred

open Json Record

/-- Why a text is no family document. -/
inductive SchemaError where
  | invalidJson (error : SyntaxError)
  | notAnObject
  | missingSequence (field : String)
  | notASequence (field : String)
  | invalidRecord (field : String) (index : Nat) (error : DecodeError)
  | duplicatePersonId (id : PersonId)
deriving DecidableEq, Repr

/-- The message of an error. -/
def SchemaError.message : SchemaError → String
  | .invalidJson error => "Invalid JSON: " ++ error.message
  | .notAnObject => "Schema mismatch: top level must be an object"
  | .missingSequence field => s!"Schema mismatch: missing sequence '{field}'"
  | .notASequence field => s!"Schema mismatch: '{field}' must be a list"
  | .invalidRecord field index error =>
    s!"Schema mismatch: invalid record {index} in '{field}': " ++ error.message
  | .duplicatePersonId id => s!"Schema mismatch: duplicate person id '{id.text}'"

/-- People and the links between them, in the order of a file. -/
structure FamilyDocument where
  people : List Person
  relations : List ParentEdge
deriving DecidableEq, Repr, Inhabited

/-- The first member of a list that stands in it before, too. -/
def firstRepeated? {α : Type} [DecidableEq α] (before : List α) : List α → Option α
  | [] => none
  | head :: rest => if head ∈ before then some head else firstRepeated? (head :: before) rest

namespace FamilyDocument

/-- The list under the first of some keys that the object has. -/
def sequence (members : List (String × Value)) (field : String) (keys : List String) :
    Except SchemaError (List Value) :=
  match keys.findSome? (Value.member? members) with
  | some (.array items) => .ok items
  | some _ => .error (.notASequence field)
  | none => .error (.missingSequence field)

/-- Reads the records of a list that follow that many others. -/
def decodeRecords {α : Type} (field : String) (decode : Decoder α) (before : Nat) :
    List Value → Except SchemaError (List α)
  | [] => .ok []
  | record :: rest =>
    match decode record with
    | .error error => .error (.invalidRecord field before error)
    | .ok read => (decodeRecords field decode (before + 1) rest).map (read :: ·)

/-- Reads a document. Its shape is looked at before its records, and these before their identifiers. -/
def ofValue (value : Value) : Except SchemaError FamilyDocument :=
  match value with
  | .object members => do
    let people ← sequence members "people" ["people"]
    let relations ← sequence members "relations" ["relations", "edges"]
    let people ← decodeRecords "people" Person.decode 0 people
    let relations ← decodeRecords "relations" ParentEdge.decode 0 relations
    match firstRepeated? [] (people.map Person.id) with
    | some id => throw (.duplicatePersonId id)
    | none => return ⟨people, relations⟩
  | _ => .error .notAnObject

/-- Reads a document from its text. -/
def ofText (text : String) : Except SchemaError FamilyDocument :=
  match Value.ofText text with
  | .ok value => ofValue value
  | .error error => .error (.invalidJson error)

/-- A document as an object. -/
def encode (document : FamilyDocument) : Value :=
  .object [("people", .array (document.people.map Person.encode)),
    ("relations", .array (document.relations.map ParentEdge.encode))]

/-- The text of a document. -/
def pretty (document : FamilyDocument) : String :=
  document.encode.pretty

/-- What a document's list should be. -/
def asList : String :=
  "struct FamilyDocument with 2 elements"

/-- Reads a document as a record from an object, whose members are read in the order of their keys. Only one
of the two names for the links may stand there. -/
def ofMembers (members : List (String × Value)) : Except DecodeError FamilyDocument := do
  let edges ← field? members "edges" (decodeList ParentEdge.decode)
  let people ← field? members "people" (decodeList Person.decode)
  if edges.isSome ∧ (Value.member? members "relations").isSome then
    throw (.duplicateField "relations")
  let relations ← field? members "relations" (decodeList ParentEdge.decode)
  let people ← required "people" people
  let relations ← required "relations" (relations.or edges)
  return ⟨people, relations⟩

/-- Reads a document as a record from a list of its two lists. -/
def ofItems (items : List Value) : Except DecodeError FamilyDocument := do
  let (people, rest) ← item (decodeList Person.decode) 0 asList items
  let (relations, rest) ← item (decodeList ParentEdge.decode) 1 asList rest
  noMore items.length rest
  return ⟨people, relations⟩

/-- Reads a document as a record, which does not look at identifiers that occur twice. -/
def decode : Decoder FamilyDocument
  | .object members => ofMembers members
  | .array items => ofItems items
  | value => .error (.invalidType (.of value) "struct FamilyDocument")

end FamilyDocument

end Kindred
