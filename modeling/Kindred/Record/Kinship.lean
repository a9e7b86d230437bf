import Kindred.Record.People
import Kindred.Relation

/-! Relations and classifications as JSON. -/

namespace Kindred

open Json Record

namespace Relation

/-- The kinds of relations, without what belongs to each. -/
inductive Kind where
  | notFound
  | samePerson
  | directLine
  | siblings
  | auntUncle
  | cousins
deriving DecidableEq, Repr

/-- The names of the kinds. -/
def Kind.names : List (String × Kind) :=
  [("not_found", .notFound), ("same_person", .samePerson), ("direct_line", .directLine),
    ("siblings", .siblings), ("aunt_uncle", .auntUncle), ("cousins", .cousins)]

/-- Reads the name of a kind. -/
def Kind.decode : Decoder Kind
  | .scalar (.string name) => variant names name
  | value => .error (.invalidType (.of value) "variant identifier")

/-- Reads the line of a relation. -/
def decodeLine : Decoder (Option Line) :=
  decodeOption (decodeVariant Line.names isNullOrEmpty)

/-- Reads what belongs to a kind from the members of an object, in the order of their keys. -/
def ofMembers (members : List (String × Value)) : Kind → Except DecodeError Relation
  | .notFound => .ok .notFound
  | .samePerson => .ok .samePerson
  | .directLine => do
    let aIsAncestor ← field? members "a_is_ancestor" decodeBool
    let generations ← field? members "generations" decodeNatural
    let line ← field? members "line" decodeLine
    let generations ← required "generations" generations
    let aIsAncestor ← required "a_is_ancestor" aIsAncestor
    return .directLine generations aIsAncestor (line.getD none)
  | .siblings => do
    let ancestor ← field? members "common_ancestor" PersonId.decode
    return .siblings (← required "common_ancestor" ancestor)
  | .auntUncle => do
    let aIsSenior ← field? members "a_is_senior" decodeBool
    let ancestor ← field? members "common_ancestor" PersonId.decode
    let degree ← field? members "degree" decodeNatural
    let degree ← required "degree" degree
    let aIsSenior ← required "a_is_senior" aIsSenior
    return .auntUncle degree aIsSenior (← required "common_ancestor" ancestor)
  | .cousins => do
    let ancestor ← field? members "common_ancestor" PersonId.decode
    let degree ← field? members "degree" decodeNatural
    let removal ← field? members "removal" decodeNatural
    let degree ← required "degree" degree
    let removal ← required "removal" removal
    return .cousins degree removal (← required "common_ancestor" ancestor)

/-- Reads what belongs to a kind from the items after its name. -/
def ofItems (items : List Value) : Kind → Except DecodeError Relation
  | .notFound => do
    noMoreThan 0 items
    return .notFound
  | .samePerson => do
    noMoreThan 0 items
    return .samePerson
  | .directLine => do
    let asList := "struct variant Relation::DirectLine with 3 elements"
    let (generations, rest) ← item decodeNatural 0 asList items
    let (aIsAncestor, rest) ← item decodeBool 1 asList rest
    let (line, rest) ← item decodeLine 2 asList rest
    noMoreThan 3 rest
    return .directLine generations aIsAncestor line
  | .siblings => do
    let asList := "struct variant Relation::Siblings with 1 element"
    let (ancestor, rest) ← item PersonId.decode 0 asList items
    noMoreThan 1 rest
    return .siblings ancestor
  | .auntUncle => do
    let asList := "struct variant Relation::AuntUncle with 3 elements"
    let (degree, rest) ← item decodeNatural 0 asList items
    let (aIsSenior, rest) ← item decodeBool 1 asList rest
    let (ancestor, rest) ← item PersonId.decode 2 asList rest
    noMoreThan 3 rest
    return .auntUncle degree aIsSenior ancestor
  | .cousins => do
    let asList := "struct variant Relation::Cousins with 3 elements"
    let (degree, rest) ← item decodeNatural 0 asList items
    let (removal, rest) ← item decodeNatural 1 asList rest
    let (ancestor, rest) ← item PersonId.decode 2 asList rest
    noMoreThan 3 rest
    return .cousins degree removal ancestor

/-- Reads a relation: an object with a kind, or a list that begins with the kind. -/
def decode : Decoder Relation
  | .object members => do
    let kind ← field? members "kind" Kind.decode
    ofMembers members (← required "kind" kind)
  | .array (first :: rest) => do
    ofItems rest (← Kind.decode first)
  | .array [] => .error (.missingField "kind")
  | value => .error (.invalidType (.of value) "internally tagged enum Relation")

/-- A relation as an object, the kind first. -/
def encode : Relation → Value
  | .notFound => .object [("kind", .string "not_found")]
  | .samePerson => .object [("kind", .string "same_person")]
  | .directLine generations aIsAncestor line =>
    .object [("kind", .string "direct_line"), ("generations", .natural generations),
      ("a_is_ancestor", .bool aIsAncestor),
      ("line", (line.map fun line => Value.string line.name).getD .null)]
  | .siblings ancestor =>
    .object [("kind", .string "siblings"), ("common_ancestor", .string ancestor.text)]
  | .auntUncle degree aIsSenior ancestor =>
    .object [("kind", .string "aunt_uncle"), ("degree", .natural degree),
      ("a_is_senior", .bool aIsSenior), ("common_ancestor", .string ancestor.text)]
  | .cousins degree removal ancestor =>
    .object [("kind", .string "cousins"), ("degree", .natural degree),
      ("removal", .natural removal), ("common_ancestor", .string ancestor.text)]

end Relation

namespace Classification

/-- What a classification's list should be. -/
def asList : String :=
  "struct ClassificationResult with 4 elements"

/-- Reads a classification from an object. The members are read in the order of their keys. -/
def ofMembers (members : List (String × Value)) : Except DecodeError Classification := do
  let evidence ← field? members "evidence" (decodeList decodeString)
  let relation ← field? members "relation" Relation.decode
  let roleOfA ← field? members "role_of_a" decodeString
  let roleOfB ← field? members "role_of_b" decodeString
  let roleOfA ← required "role_of_a" roleOfA
  let roleOfB ← required "role_of_b" roleOfB
  let relation ← required "relation" relation
  let evidence ← required "evidence" evidence
  return ⟨roleOfA, roleOfB, relation, evidence⟩

/-- Reads a classification from a list of its parts. -/
def ofItems (items : List Value) : Except DecodeError Classification := do
  let (roleOfA, rest) ← item decodeString 0 asList items
  let (roleOfB, rest) ← item decodeString 1 asList rest
  let (relation, rest) ← item Relation.decode 2 asList rest
  let (evidence, rest) ← item (decodeList decodeString) 3 asList rest
  noMore items.length rest
  return ⟨roleOfA, roleOfB, relation, evidence⟩

/-- Reads a classification. -/
def decode : Decoder Classification
  | .object members => ofMembers members
  | .array items => ofItems items
  | value => .error (.invalidType (.of value) "struct ClassificationResult")

/-- A classification as an object. -/
def encode (result : Classification) : Value :=
  .object [("role_of_a", .string result.roleOfA), ("role_of_b", .string result.roleOfB),
    ("relation", result.relation.encode),
    ("evidence", .array (result.evidence.map Value.string))]

end Classification

end Kindred
