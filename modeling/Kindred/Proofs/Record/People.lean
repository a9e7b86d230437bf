import Kindred.Proofs.Json.RoundTrip
import Kindred.Proofs.Record.Reading

/-! People and links are the same after they have been written and read. -/

namespace Kindred

open Json

namespace Record

variable {α : Type} {members : List (String × Value)} {name : String} {decode : Decoder α}

/-- What is written under a key is decoded from that key. -/
theorem field?_of_written {value : Value} {read : α} (once : (members.map Prod.fst).Nodup)
    (written : Value.member? members name = some value) (decodes : decode value.asRead = .ok read) :
    field? (Value.membersAsRead [] members) name decode = .ok (some read) := by
  rw [field?, Value.member?_membersAsRead once, written, Option.map_some, Option.some_or]
  simp only [decodes, Except.map]

/-- Under a key that is not written nothing is decoded. -/
theorem field?_of_missing (once : (members.map Prod.fst).Nodup)
    (missing : Value.member? members name = none) :
    field? (Value.membersAsRead [] members) name decode = .ok none := by
  rw [field?, Value.member?_membersAsRead once, missing]
  rfl

/-- Records that are each read from what they are written as are all read from it. -/
theorem readAs_map {encode : α → Value} (inverse : ∀ record, decode (encode record).asRead = .ok record)
    (records : List α) : ReadAs decode (Value.itemsAsRead (records.map encode)) records := by
  induction records with
  | nil => exact .nil
  | cons record rest ih => exact .cons (inverse record) ih

end Record

open Record

/-- A sex is read from its name. -/
theorem Sex.decode_name (sex : Sex) : Sex.decode (.string sex.name) = .ok sex := by
  cases sex <;> decide

namespace Person

/-- The members that a person is written as. -/
def members (person : Person) : List (String × Value) :=
  [("id", .string person.id.text), ("name", .string person.name), ("sex", .string person.sex.name)] ++
    (person.note.map fun note => ("note", Value.string note)).toList

/-- No member of a person is written twice. -/
theorem nodup_members (person : Person) : (person.members.map Prod.fst).Nodup := by
  rcases person with ⟨id, name, sex, _ | note⟩
  · exact (by decide : ["id", "name", "sex"].Nodup)
  · exact (by decide : ["id", "name", "sex", "note"].Nodup)

/-- A note is written if there is one. -/
theorem member?_note (person : Person) :
    Value.member? person.members "note" = person.note.map Value.string := by
  rcases person with ⟨id, name, sex, _ | note⟩ <;> rfl

/-- A person is an object of texts. -/
theorem fits_encode (room : Nat) (person : Person) : Value.Fits (room + 1) person.encode := by
  have texts : ∀ member ∈ person.members, ∃ text, member.2 = .string text := by
    rcases person with ⟨id, name, sex, _ | note⟩ <;> simp [members]
  exact Value.fits_texts room texts

/-- A person is read from what it is written as. No note stays apart from an empty one. -/
theorem decode_encode (person : Person) : decode person.encode.asRead = .ok person := by
  -- Each member is found by its key, wherever the order of the keys has put it.
  have once := nodup_members person
  have id : field? (Value.membersAsRead [] person.members) "id" PersonId.decode = .ok (some person.id) :=
    field?_of_written once rfl rfl
  have name : field? (Value.membersAsRead [] person.members) "name" decodeString =
      .ok (some person.name) :=
    field?_of_written once rfl rfl
  have sex : field? (Value.membersAsRead [] person.members) "sex" Sex.decode =
      .ok (some person.sex) :=
    field?_of_written once rfl (Sex.decode_name person.sex)
  have note : field? (Value.membersAsRead [] person.members) "note" (decodeOption decodeString) =
      .ok (person.note.map some) := by
    have written := member?_note person
    cases found : person.note with
    | none =>
      rw [found] at written
      exact field?_of_missing once written
    | some note =>
      rw [found] at written
      exact field?_of_written once written rfl
  calc decode person.encode.asRead
      = ofMembers (Value.membersAsRead [] person.members) := rfl
    _ = .ok ⟨person.id, person.name, person.sex, (person.note.map some).getD none⟩ := by
        rw [ofMembers, id, name, note, sex]
        rfl
    _ = .ok person := by
        have kept : (person.note.map some).getD none = person.note := by
          cases person.note <;> rfl
        rw [kept]

end Person

namespace ParentEdge

/-- The members that a link is written as. -/
def members (edge : ParentEdge) : List (String × Value) :=
  [("parentId", .string edge.parent.text), ("childId", .string edge.child.text)]

/-- A link is an object of texts. -/
theorem fits_encode (room : Nat) (edge : ParentEdge) : Value.Fits (room + 1) edge.encode := by
  have texts : ∀ member ∈ edge.members, ∃ text, member.2 = .string text := by
    simp [members]
  exact Value.fits_texts room texts

/-- A link is read from what it is written as. -/
theorem decode_encode (edge : ParentEdge) : decode edge.encode.asRead = .ok edge := by
  have once : (edge.members.map Prod.fst).Nodup := (by decide : ["parentId", "childId"].Nodup)
  have parent : field? (Value.membersAsRead [] edge.members) "parentId" PersonId.decode =
      .ok (some edge.parent) :=
    field?_of_written once rfl rfl
  have child : field? (Value.membersAsRead [] edge.members) "childId" PersonId.decode =
      .ok (some edge.child) :=
    field?_of_written once rfl rfl
  calc decode edge.encode.asRead
      = ofMembers (Value.membersAsRead [] edge.members) := rfl
    _ = .ok edge := by
        rw [ofMembers, child, parent]
        rfl

end ParentEdge

end Kindred
