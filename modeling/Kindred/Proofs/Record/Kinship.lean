import Kindred.Proofs.Record.People
import Kindred.Record.Kinship

/-! Relations and classifications are the same after they have been written and read. -/

namespace Kindred

open Json Record

namespace Relation

/-- The kind of a relation. -/
def kind : Relation → Kind
  | .notFound => .notFound
  | .samePerson => .samePerson
  | .directLine .. => .directLine
  | .siblings _ => .siblings
  | .auntUncle .. => .auntUncle
  | .cousins .. => .cousins

/-- The numbers of a relation. -/
def numbers : Relation → List Nat
  | .notFound | .samePerson | .siblings _ => []
  | .directLine generations _ _ => [generations]
  | .auntUncle degree _ _ => [degree]
  | .cousins degree removal _ => [degree, removal]

/-- The members that a relation is written as. -/
def members : Relation → List (String × Value)
  | .notFound => [("kind", .string "not_found")]
  | .samePerson => [("kind", .string "same_person")]
  | .directLine generations aIsAncestor line =>
    [("kind", .string "direct_line"), ("generations", .natural generations), ("a_is_ancestor", .bool aIsAncestor),
      ("line", (line.map fun line => Value.string line.name).getD .null)]
  | .siblings ancestor => [("kind", .string "siblings"), ("common_ancestor", .string ancestor.text)]
  | .auntUncle degree aIsSenior ancestor =>
    [("kind", .string "aunt_uncle"), ("degree", .natural degree), ("a_is_senior", .bool aIsSenior),
      ("common_ancestor", .string ancestor.text)]
  | .cousins degree removal ancestor =>
    [("kind", .string "cousins"), ("degree", .natural degree), ("removal", .natural removal),
      ("common_ancestor", .string ancestor.text)]

/-- A relation is written as the object of its members. -/
theorem encode_eq (relation : Relation) : relation.encode = .object relation.members := by
  cases relation <;> rfl

/-- No member of a relation is written twice. -/
theorem nodup_members (relation : Relation) : (relation.members.map Prod.fst).Nodup := by
  cases relation with
  | notFound => exact (by decide : ["kind"].Nodup)
  | samePerson => exact (by decide : ["kind"].Nodup)
  | directLine => exact (by decide : ["kind", "generations", "a_is_ancestor", "line"].Nodup)
  | siblings => exact (by decide : ["kind", "common_ancestor"].Nodup)
  | auntUncle => exact (by decide : ["kind", "degree", "a_is_senior", "common_ancestor"].Nodup)
  | cousins => exact (by decide : ["kind", "degree", "removal", "common_ancestor"].Nodup)

/-- The kind of a relation is read from its name. -/
theorem field?_kind (relation : Relation) :
    field? (Value.membersAsRead [] relation.members) "kind" Kind.decode = .ok (some relation.kind) := by
  have once := nodup_members relation
  cases relation <;> exact field?_of_written once rfl rfl

/-- A line is read from its name, and no line from the value that stands for nothing. -/
theorem decodeLine_written (line : Option Line) :
    decodeLine ((line.map fun line => Value.string line.name).getD .null).asRead = .ok line := by
  rcases line with _ | (_ | _) <;> rfl

/-- A relation whose numbers have 64 binary digits is an object of scalars that can be read. -/
theorem fits_encode (room : Nat) {relation : Relation} (bounded : ∀ number ∈ relation.numbers, number ≤ maxCount) :
    Value.Fits (room + 1) relation.encode := by
  -- A number that is not too large is read as the digits that it is written in.
  have scalars : ∀ member ∈ relation.members, ∃ value : Scalar, member.2 = .scalar value ∧ value.Readable := by
    rcases relation with _ | _ | ⟨_, _, _ | _⟩ | _ | _ | _
    all_goals simp_all [members, numbers, Value.string, Value.natural, Value.bool, Value.null, Scalar.Readable,
      Number.IsWhole]
  rw [encode_eq]
  refine .object fun member written => ?_
  obtain ⟨value, same, readable⟩ := scalars member written
  exact same ▸ .scalar readable

/-- What belongs to a kind is read from the members that a relation of that kind is written as. -/
theorem ofMembers_written (relation : Relation) :
    ofMembers (Value.membersAsRead [] relation.members) relation.kind = .ok relation := by
  have once := nodup_members relation
  cases relation with
  | notFound => rfl
  | samePerson => rfl
  | directLine generations aIsAncestor line =>
    let members := Value.membersAsRead [] (Relation.directLine generations aIsAncestor line).members
    have isAncestor : field? members "a_is_ancestor" decodeBool = .ok (some aIsAncestor) :=
      field?_of_written once rfl rfl
    have count : field? members "generations" decodeNatural = .ok (some generations) :=
      field?_of_written once rfl rfl
    have side : field? members "line" decodeLine = .ok (some line) :=
      field?_of_written once rfl (decodeLine_written line)
    rw [kind, ofMembers, isAncestor, count, side]
    rfl
  | siblings ancestor =>
    let members := Value.membersAsRead [] (Relation.siblings ancestor).members
    have shared : field? members "common_ancestor" PersonId.decode = .ok (some ancestor) :=
      field?_of_written once rfl rfl
    rw [kind, ofMembers, shared]
    rfl
  | auntUncle degree aIsSenior ancestor =>
    let members := Value.membersAsRead [] (Relation.auntUncle degree aIsSenior ancestor).members
    have isSenior : field? members "a_is_senior" decodeBool = .ok (some aIsSenior) := field?_of_written once rfl rfl
    have shared : field? members "common_ancestor" PersonId.decode = .ok (some ancestor) :=
      field?_of_written once rfl rfl
    have distance : field? members "degree" decodeNatural = .ok (some degree) := field?_of_written once rfl rfl
    rw [kind, ofMembers, isSenior, shared, distance]
    rfl
  | cousins degree removal ancestor =>
    let members := Value.membersAsRead [] (Relation.cousins degree removal ancestor).members
    have shared : field? members "common_ancestor" PersonId.decode = .ok (some ancestor) :=
      field?_of_written once rfl rfl
    have distance : field? members "degree" decodeNatural = .ok (some degree) := field?_of_written once rfl rfl
    have apart : field? members "removal" decodeNatural = .ok (some removal) := field?_of_written once rfl rfl
    rw [kind, ofMembers, shared, distance, apart]
    rfl

/-- A relation is read from what it is written as, with all that belongs to its kind. -/
theorem decode_encode (relation : Relation) : decode relation.encode.asRead = .ok relation := by
  calc decode relation.encode.asRead
    _ = (do
          let kind ← field? (Value.membersAsRead [] relation.members) "kind" Kind.decode
          ofMembers (Value.membersAsRead [] relation.members) (← required "kind" kind)) := by
        rw [encode_eq]
        rfl
    _ = ofMembers (Value.membersAsRead [] relation.members) relation.kind := by
        rw [field?_kind]
        rfl
    _ = .ok relation := ofMembers_written relation

end Relation

namespace Classification

/-- The members that a classification is written as. -/
def members (result : Classification) : List (String × Value) :=
  [("role_of_a", .string result.roleOfA), ("role_of_b", .string result.roleOfB),
    ("relation", result.relation.encode), ("evidence", .array (result.evidence.map Value.string))]

/-- A classification is an object of texts, an object and a list of texts. -/
theorem fits_encode (room : Nat) {result : Classification}
    (bounded : ∀ number ∈ result.relation.numbers, number ≤ maxCount) : Value.Fits (room + 2) result.encode := by
  have relation := Relation.fits_encode room bounded
  have texts : ∀ text, Value.Fits room (.string text) := fun _ => .scalar trivial
  have evidence : Value.Fits (room + 1) (.array (result.evidence.map Value.string)) :=
    Value.fits_map texts result.evidence
  refine .object fun member inside => ?_
  rcases inside with _ | ⟨_, _ | ⟨_, _ | ⟨_, _ | ⟨_, ⟨⟩⟩⟩⟩⟩
  · exact .scalar trivial
  · exact .scalar trivial
  · exact relation
  · exact evidence

/-- A classification is read from what it is written as, with its evidence in the same order. -/
theorem decode_encode (result : Classification) : decode result.encode.asRead = .ok result := by
  have once : (result.members.map Prod.fst).Nodup :=
    (by decide : ["role_of_a", "role_of_b", "relation", "evidence"].Nodup)
  have roleOfA : field? (Value.membersAsRead [] result.members) "role_of_a" decodeString = .ok (some result.roleOfA) :=
    field?_of_written once rfl rfl
  have roleOfB : field? (Value.membersAsRead [] result.members) "role_of_b" decodeString = .ok (some result.roleOfB) :=
    field?_of_written once rfl rfl
  have relation : field? (Value.membersAsRead [] result.members) "relation" Relation.decode =
      .ok (some result.relation) :=
    field?_of_written once rfl (Relation.decode_encode result.relation)
  have evidence : field? (Value.membersAsRead [] result.members) "evidence" (decodeList decodeString) =
      .ok (some result.evidence) := by
    have texts : ReadAs decodeString (Value.itemsAsRead (result.evidence.map Value.string)) result.evidence :=
      readAs_map (fun _ => rfl) result.evidence
    exact field?_of_written once rfl (decodeList_eq_ok_iff.mpr ⟨_, rfl, texts⟩)
  calc decode result.encode.asRead
    _ = ofMembers (Value.membersAsRead [] result.members) := rfl
    _ = .ok result := by
        rw [ofMembers, evidence, relation, roleOfA, roleOfB]
        rfl

end Classification

end Kindred
