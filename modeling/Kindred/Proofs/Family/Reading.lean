import Kindred.Family.Document
import Kindred.Proofs.IdMap
import Kindred.Proofs.Record.Reading

/-! The two readers of a family document: which objects each of them accepts, and where the one that tells field
and place of a bad record stops. -/

namespace Kindred

open Json Record

/-- A repeated member has been found when those passed before it are all different and it is one of them. -/
theorem firstRepeated?_eq_some_iff {α : Type} [DecidableEq α] {before members : List α} {found : α} :
    firstRepeated? before members = some found ↔
      ∃ passed rest, members = passed ++ found :: rest ∧ passed.Nodup ∧
        (∀ member ∈ passed, member ∉ before) ∧ (found ∈ passed ∨ found ∈ before) := by
  -- Whoever is passed joins those who have stood before.
  induction members generalizing before with
  | nil => simp [firstRepeated?]
  | cons head tail ih =>
    rw [firstRepeated?]
    split
    · -- The head has stood before, so nobody is passed.
      rename_i known
      constructor
      · rintro ⟨rfl⟩
        exact ⟨[], tail, rfl, List.nodup_nil, by simp, Or.inr known⟩
      · rintro ⟨_ | ⟨first, passed⟩, rest, split, _, new, _⟩
        · rw [(List.cons.inj split).1]
        · exact absurd ((List.cons.inj split).1 ▸ known) (new first (by simp))
    · rename_i unknown
      rw [ih]
      constructor
      · rintro ⟨passed, rest, rfl, once, new, again⟩
        refine ⟨head :: passed, rest, rfl, List.nodup_cons.mpr ⟨fun member => ?_, once⟩, ?_, ?_⟩
        · exact new head member (by simp)
        · exact List.forall_mem_cons.mpr ⟨unknown, fun member inside => by
            simpa using (not_or.mp (List.mem_cons.not.mp (new member inside))).2⟩
        · simpa [or_assoc, or_left_comm] using again
      · rintro ⟨_ | ⟨first, passed⟩, rest, split, once, new, again⟩
        · obtain ⟨rfl, _⟩ := List.cons.inj split
          simp [unknown] at again
        · obtain ⟨rfl, rfl⟩ := List.cons.inj split
          obtain ⟨absent, once⟩ := List.nodup_cons.mp once
          refine ⟨passed, rest, rfl, once, fun member inside => ?_, by simpa [or_assoc, or_left_comm] using again⟩
          rw [List.mem_cons, not_or]
          exact ⟨fun same => absent (same ▸ inside), new member (by simp [inside])⟩

/-- No member is repeated when all are different and none of them has stood before. -/
theorem firstRepeated?_eq_none_iff {α : Type} [DecidableEq α] {before members : List α} :
    firstRepeated? before members = none ↔ members.Nodup ∧ ∀ member ∈ members, member ∉ before := by
  -- Then all members are passed.
  induction members generalizing before with
  | nil => simp [firstRepeated?]
  | cons head tail ih =>
    rw [firstRepeated?]
    split
    · rename_i known
      simp [known]
    · rename_i unknown
      rw [ih, List.nodup_cons]
      constructor
      · rintro ⟨once, new⟩
        refine ⟨⟨fun member => new head member (by simp), once⟩, List.forall_mem_cons.mpr ⟨unknown, ?_⟩⟩
        exact fun member inside known => new member inside (by simp [known])
      · rintro ⟨⟨absent, once⟩, new⟩
        refine ⟨once, fun member inside => ?_⟩
        rw [List.mem_cons, not_or]
        exact ⟨fun same => absent (same ▸ inside), new member (by simp [inside])⟩

/-- All records before a place can be read, and the one at the place cannot. -/
structure StopsAt {α : Type} (decode : Decoder α) (items : List Value) (place : Nat) (error : DecodeError) :
    Prop where
  before : ∀ earlier < place, ∃ record read, items[earlier]? = some record ∧ decode record = .ok read
  here : ∃ record, items[place]? = some record ∧ decode record = .error error

namespace StopsAt

variable {α : Type} {decode : Decoder α} {record : Value} {rest : List Value} {place : Nat}
  {error : DecodeError}

/-- Among no records none stops the reader. -/
theorem not_nil : ¬StopsAt decode [] place error := by
  rintro ⟨_, _, there, _⟩
  simp at there

/-- The reader stops at the first record when that cannot be read. -/
theorem zero_iff : StopsAt decode (record :: rest) 0 error ↔ decode record = .error error := by
  constructor
  · rintro ⟨_, _, ⟨rfl⟩, fails⟩
    exact fails
  · intro fails
    exact ⟨by simp, record, rfl, fails⟩

/-- The reader stops further on when the first record can be read. -/
theorem succ_iff : StopsAt decode (record :: rest) (place + 1) error ↔
    (∃ read, decode record = .ok read) ∧ StopsAt decode rest place error := by
  constructor
  · rintro ⟨before, here⟩
    obtain ⟨_, read, ⟨rfl⟩, fits⟩ := before 0 (Nat.succ_pos place)
    exact ⟨⟨read, fits⟩, fun earlier less => before (earlier + 1) (Nat.succ_lt_succ less), here⟩
  · rintro ⟨⟨read, fits⟩, before, here⟩
    refine ⟨fun earlier less => ?_, here⟩
    cases earlier with
    | zero => exact ⟨record, read, rfl, fits⟩
    | succ earlier => exact before earlier (Nat.lt_of_succ_lt_succ less)

end StopsAt

namespace FamilyDocument

section Records

variable {α : Type} {field : String} {decode : Decoder α} {place : Nat} {items : List Value}

/-- Records are read when each of them is. -/
theorem decodeRecords_eq_ok_iff {reads : List α} :
    decodeRecords field decode place items = .ok reads ↔ ReadAs decode items reads := by
  induction items generalizing place reads with
  | nil => cases reads <;> simp [decodeRecords, ReadAs]
  | cons record rest ih =>
    rw [decodeRecords, ReadAs, List.forall₂_cons_left_iff]
    cases decoded : decode record with
    | error error => simp
    | ok read =>
      have later : ∀ others, decodeRecords field decode (place + 1) rest = .ok others ↔
          List.Forall₂ (fun record read => decode record = .ok read) rest others := fun _ => ih
      cases others : decodeRecords field decode (place + 1) rest <;>
        simp [Except.map, ← later, others, eq_comm]

/-- Records are refused for the first of them that cannot be read. -/
theorem decodeRecords_eq_error_iff {problem : SchemaError} :
    decodeRecords field decode place items = .error problem ↔
      ∃ further error, problem = .invalidRecord field (place + further) error ∧
        StopsAt decode items further error := by
  -- The place counts up from record to record, so among the others the reader stops one place nearer.
  induction items generalizing place with
  | nil => simp [decodeRecords, StopsAt.not_nil]
  | cons record rest ih =>
    rw [decodeRecords]
    cases decoded : decode record with
    | error error =>
      constructor
      · rintro ⟨rfl⟩
        exact ⟨0, error, rfl, StopsAt.zero_iff.mpr decoded⟩
      · rintro ⟨_ | further, other, rfl, stops⟩
        · rw [StopsAt.zero_iff, decoded] at stops
          cases stops
          rfl
        · obtain ⟨⟨read, fits⟩, _⟩ := StopsAt.succ_iff.mp stops
          rw [decoded] at fits
          cases fits
    | ok read =>
      have later : ((decodeRecords field decode (place + 1) rest).map (read :: ·) = .error problem) ↔
          decodeRecords field decode (place + 1) rest = .error problem := by
        cases decodeRecords field decode (place + 1) rest <;> simp [Except.map]
      rw [later, ih]
      constructor
      · rintro ⟨further, error, rfl, stops⟩
        refine ⟨further + 1, error, by rw [Nat.add_right_comm, Nat.add_assoc], ?_⟩
        exact StopsAt.succ_iff.mpr ⟨⟨read, decoded⟩, stops⟩
      · rintro ⟨_ | further, error, rfl, stops⟩
        · rw [StopsAt.zero_iff, decoded] at stops
          cases stops
        · exact ⟨further, error, by rw [Nat.add_right_comm, Nat.add_assoc], (StopsAt.succ_iff.mp stops).2⟩

end Records

variable {members : List (String × Value)} {document : FamilyDocument}

/-- An object has a list of people. -/
def ListsPeople (members : List (String × Value)) (people : List Value) : Prop :=
  Value.member? members "people" = some (.array people)

/-- An object has a list of links. It stands under one of two names, of which the first one counts if both are
there. -/
def ListsRelations (members : List (String × Value)) (relations : List Value) : Prop :=
  Value.member? members "relations" = some (.array relations) ∨
    Value.member? members "relations" = none ∧ Value.member? members "edges" = some (.array relations)

/-- A list is found when it is the first member under one of the names. -/
theorem sequence_eq_ok_iff {field : String} {keys : List String} {items : List Value} :
    sequence members field keys = .ok items ↔
      keys.findSome? (Value.member? members) = some (.array items) := by
  rw [sequence]
  split
  · rename_i there
    simp [there]
  · rename_i noList there
    simp only [there, Option.some.injEq, reduceCtorEq, false_iff]
    rintro rfl
    exact noList _ rfl
  · rename_i missing
    simp [missing]

/-- The list of the people is the one that the object has. -/
theorem sequence_people_eq_ok_iff {people : List Value} :
    sequence members "people" ["people"] = .ok people ↔ ListsPeople members people := by
  rw [sequence_eq_ok_iff, ListsPeople, List.findSome?_cons, List.findSome?_nil]
  cases Value.member? members "people" <;> simp

/-- The list of the links is the one that the object has under the first of the two names. -/
theorem sequence_relations_eq_ok_iff {relations : List Value} :
    sequence members "relations" ["relations", "edges"] = .ok relations ↔
      ListsRelations members relations := by
  rw [sequence_eq_ok_iff, ListsRelations, List.findSome?_cons, List.findSome?_cons, List.findSome?_nil]
  cases Value.member? members "relations" with
  | some value => simp
  | none => cases Value.member? members "edges" <;> simp

/-- A list that is missing, or is none, is no matter of anything else. -/
theorem sequence_ne_error {field : String} {keys : List String} {problem : SchemaError}
    (other : problem ≠ .missingSequence field ∧ problem ≠ .notASequence field) :
    sequence members field keys ≠ .error problem := by
  intro refused
  -- There is no member under any of the names, or the first one is no list.
  rw [sequence] at refused
  split at refused
  · cases refused
  · cases refused
    exact other.2 rfl
  · cases refused
    exact other.1 rfl

/-- An object lists records that are read as those of a document. -/
def Holds (members : List (String × Value)) (document : FamilyDocument) : Prop :=
  ∃ people relations, ListsPeople members people ∧ ListsRelations members relations ∧
    ReadAs Person.decode people document.people ∧ ReadAs ParentEdge.decode relations document.relations

/-- A document is read from an object that holds it, if its people have different identifiers. -/
theorem ofValue_eq_ok_iff : ofValue (.object members) = .ok document ↔
    Holds members document ∧ (document.people.map Person.id).Nodup := by
  -- Two lists are found, all of their records are read, and then the identifiers are compared.
  simp only [ofValue, bind_eq_ok_iff, sequence_people_eq_ok_iff, sequence_relations_eq_ok_iff,
    decodeRecords_eq_ok_iff]
  constructor
  · rintro ⟨people, listed, relations, linked, persons, read, edges, readLinks, made⟩
    split at made
    · cases made
    · rename_i once
      cases made
      exact ⟨⟨people, relations, listed, linked, read, readLinks⟩, (firstRepeated?_eq_none_iff.mp once).1⟩
  · rintro ⟨⟨people, relations, listed, linked, read, readLinks⟩, once⟩
    refine ⟨people, listed, relations, linked, _, read, _, readLinks, ?_⟩
    rw [firstRepeated?_eq_none_iff.mpr ⟨once, by simp⟩]
    rfl

/-- The links stand in an object under both of their names. -/
def NamesLinksTwice (members : List (String × Value)) : Prop :=
  (Value.member? members "relations").isSome ∧ (Value.member? members "edges").isSome

/-- A list has been read of a member when the member is a list of records that can be read. -/
theorem field?_decodeList_eq_some_iff {α : Type} {name : String} {decode : Decoder α} {reads : List α} :
    field? members name (decodeList decode) = .ok (some reads) ↔
      ∃ items, Value.member? members name = some (.array items) ∧ ReadAs decode items reads := by
  -- What is no list is refused, and a list is read record by record.
  rw [field?_eq_some_iff]
  constructor
  · rintro ⟨value, there, read⟩
    obtain ⟨items, rfl, each⟩ := decodeList_eq_ok_iff.mp read
    exact ⟨items, there, each⟩
  · rintro ⟨items, there, each⟩
    exact ⟨_, there, decodeList_eq_ok_iff.mpr ⟨items, rfl, each⟩⟩

/-- What is read of the two names for the links is a list under one of them, when only one is there. -/
theorem exists_relations_of_fields {edges relations : Option (List ParentEdge)} {links : List ParentEdge}
    (readEdges : field? members "edges" (decodeList ParentEdge.decode) = .ok edges)
    (readRelations : field? members "relations" (decodeList ParentEdge.decode) = .ok relations)
    (oneName : ¬(edges.isSome ∧ (Value.member? members "relations").isSome))
    (eitherName : relations.or edges = some links) :
    ¬NamesLinksTwice members ∧
      ∃ items, ListsRelations members items ∧ ReadAs ParentEdge.decode items links := by
  cases relations with
  | some _ =>
    -- The first name is there, and so the second one is not.
    obtain ⟨rfl⟩ : some _ = some links := eitherName
    obtain ⟨items, there, read⟩ := field?_decodeList_eq_some_iff.mp readRelations
    have noEdges : edges = none := by simpa [there] using oneName
    rw [noEdges, field?_eq_none_iff] at readEdges
    exact ⟨by simp [NamesLinksTwice, readEdges], items, Or.inl there, read⟩
  | none =>
    obtain rfl : edges = some links := eitherName
    obtain ⟨items, there, read⟩ := field?_decodeList_eq_some_iff.mp readEdges
    rw [field?_eq_none_iff] at readRelations
    exact ⟨by simp [NamesLinksTwice, readRelations], items, Or.inr ⟨readRelations, there⟩, read⟩

/-- A list of links under the only name is what is read of the two names. -/
theorem exists_fields_of_relations {items : List Value} {links : List ParentEdge}
    (oneName : ¬NamesLinksTwice members) (listed : ListsRelations members items)
    (read : ReadAs ParentEdge.decode items links) :
    ∃ edges relations, field? members "edges" (decodeList ParentEdge.decode) = .ok edges ∧
      field? members "relations" (decodeList ParentEdge.decode) = .ok relations ∧
      ¬(edges.isSome ∧ (Value.member? members "relations").isSome) ∧ relations.or edges = some links := by
  rcases listed with there | ⟨missing, there⟩
  · have noEdges : Value.member? members "edges" = none := by
      simpa [NamesLinksTwice, there] using oneName
    exact ⟨none, some links, field?_eq_none_iff.mpr noEdges,
      field?_decodeList_eq_some_iff.mpr ⟨items, there, read⟩, by simp, rfl⟩
  · exact ⟨some links, none, field?_decodeList_eq_some_iff.mpr ⟨items, there, read⟩,
      field?_eq_none_iff.mpr missing, by simp [missing], rfl⟩

/-- A document is read as a record from an object that holds it, if the links stand under one name only. -/
theorem ofMembers_eq_ok_iff :
    ofMembers members = .ok document ↔ ¬NamesLinksTwice members ∧ Holds members document := by
  -- The members are read in the order of their keys, so the second name comes first.
  constructor
  · intro read
    simp only [ofMembers, bind_eq_ok_iff] at read
    obtain ⟨edges, readEdges, people, readPeople, read⟩ := read
    split at read
    · cases read
    · rename_i oneName
      simp only [bind_eq_ok_iff, required_eq_ok_iff] at read
      obtain ⟨relations, readRelations, _, rfl, links, eitherName, made⟩ := read
      cases made
      obtain ⟨persons, listed, readPersons⟩ := field?_decodeList_eq_some_iff.mp readPeople
      obtain ⟨single, items, linked, readLinks⟩ :=
        exists_relations_of_fields readEdges readRelations oneName eitherName
      exact ⟨single, persons, items, listed, linked, readPersons, readLinks⟩
  · rintro ⟨single, persons, items, listed, linked, readPersons, readLinks⟩
    have readPeople := field?_decodeList_eq_some_iff.mpr ⟨persons, listed, readPersons⟩
    obtain ⟨edges, relations, readEdges, readRelations, oneName, eitherName⟩ :=
      exists_fields_of_relations single linked readLinks
    simp only [ofMembers, bind_eq_ok_iff]
    refine ⟨edges, readEdges, _, readPeople, ?_⟩
    rw [if_neg oneName]
    simp only [bind_eq_ok_iff, required_eq_ok_iff]
    exact ⟨relations, readRelations, _, rfl, _, eitherName, rfl⟩

/-- The second name for the links is not looked at when the first one is there. -/
theorem ofValue_without_edges (there : (Value.member? members "relations").isSome) :
    ofValue (.object members) = ofValue (.object (members.filter fun member => member.1 != "edges")) := by
  -- The search for the links ends at the first name, and the other names are found as before.
  obtain ⟨value, found⟩ := Option.isSome_iff_exists.mp there
  have people := lookup_filter_ne (by decide : "people" ≠ "edges") members
  have relations := lookup_filter_ne (by decide : "relations" ≠ "edges") members
  rw [Value.member?] at found
  simp only [ofValue, sequence, List.findSome?_cons, List.findSome?_nil, Value.member?, people, relations, found]

/-- Why an object is refused: for its lists, for a record of a person, for a record of a link, or, once all records
have been read, for an identifier. -/
inductive Refuses (members : List (String × Value)) : SchemaError → Prop
  | people {problem : SchemaError} (refused : sequence members "people" ["people"] = .error problem) :
    Refuses members problem
  | relations {people : List Value} {problem : SchemaError} (listed : ListsPeople members people)
    (refused : sequence members "relations" ["relations", "edges"] = .error problem) : Refuses members problem
  | person {people relations : List Value} {index : Nat} {error : DecodeError}
    (listed : ListsPeople members people) (linked : ListsRelations members relations)
    (stops : StopsAt Person.decode people index error) : Refuses members (.invalidRecord "people" index error)
  | link {people relations : List Value} {persons : List Person} {index : Nat} {error : DecodeError}
    (listed : ListsPeople members people) (linked : ListsRelations members relations)
    (read : ReadAs Person.decode people persons) (stops : StopsAt ParentEdge.decode relations index error) :
    Refuses members (.invalidRecord "relations" index error)
  | identifier {document : FamilyDocument} {id : PersonId} (holds : Holds members document)
    (first : firstRepeated? [] (document.people.map Person.id) = some id) :
    Refuses members (.duplicatePersonId id)

/-- The first reader fails for one of these reasons and tells which. -/
theorem ofValue_eq_error_iff {problem : SchemaError} :
    ofValue (.object members) = .error problem ↔ Refuses members problem := by
  -- Each step of the reader fails after the steps before it have succeeded.
  simp only [ofValue, bind_eq_error_iff, sequence_people_eq_ok_iff, sequence_relations_eq_ok_iff,
    decodeRecords_eq_ok_iff, decodeRecords_eq_error_iff, Nat.zero_add]
  constructor
  · rintro (refused | ⟨people, listed, refused | ⟨relations, linked,
      ⟨index, error, rfl, stops⟩ | ⟨persons, read, ⟨index, error, rfl, stops⟩ | ⟨edges, readLinks, repeated⟩⟩⟩⟩)
    · exact .people refused
    · exact .relations listed refused
    · exact .person listed linked stops
    · exact .link listed linked read stops
    · split at repeated
      · rename_i first
        cases repeated
        have holds : Holds members ⟨persons, edges⟩ := ⟨people, relations, listed, linked, read, readLinks⟩
        exact .identifier holds first
      · cases repeated
  · intro refuses
    cases refuses with
    | people refused => exact Or.inl refused
    | relations listed refused => exact Or.inr ⟨_, listed, Or.inl refused⟩
    | person listed linked stops => exact Or.inr ⟨_, listed, Or.inr ⟨_, linked, Or.inl ⟨_, _, rfl, stops⟩⟩⟩
    | link listed linked read stops =>
      exact Or.inr ⟨_, listed, Or.inr ⟨_, linked, Or.inr ⟨_, read, Or.inl ⟨_, _, rfl, stops⟩⟩⟩⟩
    | identifier holds first =>
      obtain ⟨people, relations, listed, linked, read, readLinks⟩ := holds
      refine Or.inr ⟨_, listed, Or.inr ⟨_, linked, Or.inr ⟨_, read, Or.inr ⟨_, readLinks, ?_⟩⟩⟩⟩
      rw [first]
      rfl

/-- A value is refused because it is no object, or it is an object that is refused. -/
theorem refuses_of_ofValue_eq_error {value : Value} {problem : SchemaError}
    (refused : ofValue value = .error problem) :
    problem = .notAnObject ∨ ∃ members, value = .object members ∧ Refuses members problem := by
  cases value with
  | scalar value => exact Or.inl (Except.error.inj refused).symm
  | array items => exact Or.inl (Except.error.inj refused).symm
  | object members => exact Or.inr ⟨members, rfl, ofValue_eq_error_iff.mp refused⟩

/-- Two people's records share an identifier, and no two before the second of them do. Numbers and texts are
compared in their decimal form. -/
def FirstRepeated (records : List Value) (id : PersonId) : Prop :=
  ∃ before record after, records = before ++ record :: after ∧
    (before.Pairwise fun first second => ¬Person.SharesId first second) ∧
    Person.HasId record id ∧ ∃ earlier ∈ before, Person.HasId earlier id

/-- The first repeated identifier among people is the first repeated one among their records. -/
theorem firstRepeated_of_readAs {records : List Value} {persons : List Person} {id : PersonId}
    (read : ReadAs Person.decode records persons)
    (first : firstRepeated? [] (persons.map Person.id) = some id) : FirstRepeated records id := by
  obtain ⟨passed, rest, split, once, _, again⟩ := firstRepeated?_eq_some_iff.mp first
  have known : id ∈ passed := by simpa using again
  -- The records fall into parts where the people do.
  obtain ⟨earlier, later, rfl, rfl, others⟩ := List.map_eq_append_iff.mp split
  obtain ⟨person, following, rfl, rfl, rfl⟩ := List.map_eq_cons_iff.mp others
  obtain ⟨before, remaining, rfl, readBefore, readRest⟩ := read.exists_append
  obtain ⟨record, after, fits, _, rfl⟩ := List.forall₂_cons_right_iff.mp readRest
  exact ⟨before, record, after, rfl, (Person.pairwise_not_sharesId_iff readBefore).mpr once,
    (Person.hasId_iff fits _).mpr rfl, (Person.exists_hasId_iff readBefore _).mpr known⟩

/-- The two readers agree on an object. -/
structure ReadAlike (members : List (String × Value)) : Prop where
  oneName : ¬NamesLinksTwice members → ∀ document, ofValue (.object members) = .ok document ↔
    decode (.object members) = .ok document ∧ (document.people.map Person.id).Nodup
  /-- The second reader takes two names for the same list as a list that stands there twice. -/
  bothNames : NamesLinksTwice members → ∀ document, decode (.object members) ≠ .ok document
  /-- The first reader does not look at the second name. -/
  firstName : NamesLinksTwice members →
    ofValue (.object members) = ofValue (.object (members.filter fun member => member.1 != "edges"))

/-- The readers agree on every object. -/
theorem readAlike (members : List (String × Value)) : ReadAlike members where
  oneName single document := by
    -- Both readers want an object that holds the document.
    rw [ofValue_eq_ok_iff, decode, ofMembers_eq_ok_iff, and_iff_right single]
  bothNames twice document read := by
    rw [decode, ofMembers_eq_ok_iff] at read
    exact read.1 twice
  firstName twice := ofValue_without_edges twice.1

/-- A value's records can be read up to a place of a field and not there. The people's records come first. -/
def StopsAtRecord (value : Value) (field : String) (index : Nat) (error : DecodeError) : Prop :=
  ∃ members people relations, value = .object members ∧
    ListsPeople members people ∧ ListsRelations members relations ∧
    (field = "people" ∧ StopsAt Person.decode people index error ∨
      field = "relations" ∧ (∃ persons, ReadAs Person.decode people persons) ∧
        StopsAt ParentEdge.decode relations index error)

/-- A value's records can all be read, and the first identifier that two people share is this one. -/
def StopsAtIdentifier (value : Value) (id : PersonId) : Prop :=
  ∃ members people relations, value = .object members ∧
    ListsPeople members people ∧ ListsRelations members relations ∧
    (∃ persons, ReadAs Person.decode people persons) ∧ (∃ edges, ReadAs ParentEdge.decode relations edges) ∧
    FirstRepeated people id

/-- The reader that looks at the shape of a document first and tells field and place of a bad record accepts the
objects that the plain reader of records accepts, as long as no identifier occurs twice and the links have one
name. The record that it blames is the first one that cannot be read, and the identifier is the first one that two
people share. -/
theorem ofValue_agrees_decode :
    (∀ members, ReadAlike members) ∧
    (∀ value field index error,
      ofValue value = .error (.invalidRecord field index error) → StopsAtRecord value field index error) ∧
    ∀ value id, ofValue value = .error (.duplicatePersonId id) → StopsAtIdentifier value id := by
  refine ⟨readAlike, fun value field index error refused => ?_, fun value id refused => ?_⟩
  · rcases refuses_of_ofValue_eq_error refused with same | ⟨members, rfl, refuses⟩
    · cases same
    · cases refuses with
      | people noList => exact absurd noList (sequence_ne_error (by simp))
      | relations _ noList => exact absurd noList (sequence_ne_error (by simp))
      | person listed linked stops => exact ⟨members, _, _, rfl, listed, linked, Or.inl ⟨rfl, stops⟩⟩
      | link listed linked read stops =>
        exact ⟨members, _, _, rfl, listed, linked, Or.inr ⟨rfl, ⟨_, read⟩, stops⟩⟩
  · rcases refuses_of_ofValue_eq_error refused with same | ⟨members, rfl, refuses⟩
    · cases same
    · cases refuses with
      | people noList => exact absurd noList (sequence_ne_error (by simp))
      | relations _ noList => exact absurd noList (sequence_ne_error (by simp))
      | identifier holds first =>
        obtain ⟨people, relations, listed, linked, read, readLinks⟩ := holds
        exact ⟨members, people, relations, rfl, listed, linked, ⟨_, read⟩, ⟨_, readLinks⟩,
          firstRepeated_of_readAs read first⟩

/-- With links under both names only the first reader has a document. A person without an identifier is blamed by
field and place, and a number and the text of its digits are one identifier. -/
theorem ofValue_agrees_decode_with_old_name :
    ReadAlike [("edges", .array []), ("people", .array []), ("relations", .array [])] ∧
    decode (.object [("edges", .array []), ("people", .array []), ("relations", .array [])]) ≠ .ok ⟨[], []⟩ ∧
    StopsAtRecord (.object [("edges", .array []), ("people", .array [.object [("name", .string "a")]])])
      "people" 0 (.missingField "id") ∧
    StopsAtIdentifier (.object [("people", .array [.array [.natural 5, .string "a"],
      .array [.string "5", .string "b"]]), ("relations", .array [])]) ⟨"5"⟩ :=
  ⟨ofValue_agrees_decode.1 _, (ofValue_agrees_decode.1 _).bothNames ⟨rfl, rfl⟩ _,
    ofValue_agrees_decode.2.1 _ _ _ _ rfl, ofValue_agrees_decode.2.2 _ _ rfl⟩

end FamilyDocument

end Kindred
