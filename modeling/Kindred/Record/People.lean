import Kindred.Person
import Kindred.Record.Fields

/-! People and links as JSON. -/

namespace Kindred

open Json Record

/-- Reads an identifier: a text, or a whole number in its decimal form. -/
def PersonId.decode : Decoder PersonId
  | .scalar (.string text) => .ok ⟨text⟩
  | .scalar (.number (.natural value)) => .ok ⟨toString value⟩
  | _ => .error .noIdentifier

/-- The names of the sexes. -/
def Sex.names : List (String × Sex) :=
  [Sex.male, Sex.female, Sex.unknown].map fun sex => (sex.name, sex)

/-- Reads a sex. -/
def Sex.decode : Decoder Sex :=
  decodeVariant Sex.names isNull

/-- The names of the lines. -/
def Line.names : List (String × Line) :=
  [Line.maternal, Line.paternal].map fun line => (line.name, line)

/-- Reads a line. -/
def Line.decode : Decoder Line :=
  decodeVariant Line.names isNull

namespace Person

/-- What a person's list should be. -/
def asList : String :=
  "struct Person with 4 elements"

/-- Reads a person from an object. The members are read in the order of their keys. -/
def ofMembers (members : List (String × Value)) : Except DecodeError Person := do
  let id ← field? members "id" PersonId.decode
  let name ← field? members "name" decodeString
  let note ← field? members "note" (decodeOption decodeString)
  let sex ← field? members "sex" Sex.decode
  let id ← required "id" id
  let name ← required "name" name
  return ⟨id, name, sex.getD .unknown, note.getD none⟩

/-- Reads a person from a list: the identifier, the name, and then the sex and the note, if they are there. -/
def ofItems (items : List Value) : Except DecodeError Person := do
  let (id, rest) ← item PersonId.decode 0 asList items
  let (name, rest) ← item decodeString 1 asList rest
  let (sex, rest) ← item? Sex.decode rest
  let (note, rest) ← item? (decodeOption decodeString) rest
  noMore items.length rest
  return ⟨id, name, sex.getD .unknown, note.getD none⟩

/-- Reads a person. -/
def decode : Decoder Person
  | .object members => ofMembers members
  | .array items => ofItems items
  | value => .error (.invalidType (.of value) "struct Person")

/-- A person as an object. A note stands there only if there is one. -/
def encode (person : Person) : Value :=
  .object ([("id", .string person.id.text), ("name", .string person.name),
    ("sex", .string person.sex.name)] ++
    (person.note.map fun note => ("note", Value.string note)).toList)

end Person

namespace ParentEdge

/-- What a link's list should be. -/
def asList : String :=
  "struct ParentEdge with 2 elements"

/-- Reads a link from an object. The members are read in the order of their keys. -/
def ofMembers (members : List (String × Value)) : Except DecodeError ParentEdge := do
  let child ← field? members "childId" PersonId.decode
  let parent ← field? members "parentId" PersonId.decode
  let parent ← required "parentId" parent
  let child ← required "childId" child
  return ⟨parent, child⟩

/-- Reads a link from a list of the parent and the child. -/
def ofItems (items : List Value) : Except DecodeError ParentEdge := do
  let (parent, rest) ← item PersonId.decode 0 asList items
  let (child, rest) ← item PersonId.decode 1 asList rest
  noMore items.length rest
  return ⟨parent, child⟩

/-- Reads a link. -/
def decode : Decoder ParentEdge
  | .object members => ofMembers members
  | .array items => ofItems items
  | value => .error (.invalidType (.of value) "struct ParentEdge")

/-- A link as an object. -/
def encode (edge : ParentEdge) : Value :=
  .object [("parentId", .string edge.parent.text), ("childId", .string edge.child.text)]

end ParentEdge

end Kindred
