import Kindred.Record.People
import Mathlib.Data.List.Forall2

/-! When the parts of a record can be read, and what has been read of them then. -/

namespace Kindred

open Json

namespace Record

variable {α β ε : Type}

/-- Of two readings, one after the other, both succeed or the result is no success. -/
theorem bind_eq_ok_iff {first : Except ε α} {next : α → Except ε β} {result : β} :
    (first >>= next) = .ok result ↔ ∃ value, first = .ok value ∧ next value = .ok result := by
  cases first <;> simp [bind, Except.bind]

/-- Of two readings, one after the other, the first one fails or it succeeds and the second one fails. -/
theorem bind_eq_error_iff {first : Except ε α} {next : α → Except ε β} {error : ε} :
    (first >>= next) = .error error ↔
      first = .error error ∨ ∃ value, first = .ok value ∧ next value = .error error := by
  cases first <;> simp [bind, Except.bind]

/-- Records are read, each as the value in its place. -/
def ReadAs (decode : Decoder α) : List Value → List α → Prop :=
  -- There are as many values as records.
  List.Forall₂ fun record read => decode record = .ok read

/-- A list of records is read when each of them is. -/
theorem mapM_eq_ok_iff {decode : Decoder α} {items : List Value} {reads : List α} :
    items.mapM decode = .ok reads ↔ ReadAs decode items reads := by
  -- The first record is read before the others, and the list is made when all have been read.
  induction items generalizing reads with
  | nil => cases reads <;> simp [ReadAs, pure, Except.pure]
  | cons record rest ih =>
    rw [List.mapM_cons, ReadAs, List.forall₂_cons_left_iff]
    simp only [bind_eq_ok_iff, ih, pure, Except.pure, Except.ok.injEq, ReadAs]
    constructor
    · rintro ⟨read, first, others, later, rfl⟩
      exact ⟨read, others, first, later, rfl⟩
    · rintro ⟨read, others, first, later, rfl⟩
      exact ⟨read, first, others, later, rfl⟩

/-- What has been read in two parts stands in two parts. -/
theorem ReadAs.exists_append {decode : Decoder α} {items : List Value} {first second : List α}
    (read : ReadAs decode items (first ++ second)) :
    ∃ before after, items = before ++ after ∧ ReadAs decode before first ∧ ReadAs decode after second :=
  ⟨items.take first.length, items.drop first.length, (List.take_append_drop _ _).symm,
    List.forall₂_take_append _ _ _ read, List.forall₂_drop_append _ _ _ read⟩

/-- A list is read when it is a list of records that can be read. -/
theorem decodeList_eq_ok_iff {decode : Decoder α} {value : Value} {reads : List α} :
    decodeList decode value = .ok reads ↔ ∃ items, value = .array items ∧ ReadAs decode items reads := by
  cases value with
  | array items => simp [decodeList, mapM_eq_ok_iff]
  | scalar value => simp [decodeList]
  | object members => simp [decodeList]

variable {members : List (String × Value)} {name : String} {decode : Decoder α}

/-- Something is read of a member when it is there and can be read. -/
theorem field?_eq_some_iff {read : α} : field? members name decode = .ok (some read) ↔
    ∃ value, Value.member? members name = some value ∧ decode value = .ok read := by
  rw [field?]
  cases Value.member? members name with
  | none => simp
  | some value => cases decoded : decode value <;> simp [decoded, Except.map]

/-- Nothing is read of a member when it is not there. -/
theorem field?_eq_none_iff :
    field? members name decode = .ok none ↔ Value.member? members name = none := by
  rw [field?]
  cases Value.member? members name with
  | none => simp
  | some value => cases decoded : decode value <;> simp [decoded, Except.map]

/-- A member that must be there has been read when something has. -/
theorem required_eq_ok_iff {found : Option α} {read : α} :
    required name found = .ok read ↔ found = some read := by
  cases found <;> simp [required]

end Record

open Record

/-- An identifier is read from a text, and from a whole number that it is the decimal form of. -/
theorem PersonId.decode_eq_ok_iff {value : Value} {id : PersonId} :
    PersonId.decode value = .ok id ↔
      value = .string id.text ∨ ∃ number, value = .natural number ∧ id.text = toString number := by
  obtain ⟨text⟩ := id
  fun_cases PersonId.decode value with
  | case1 => simp [Value.string, Value.natural]
  | case2 => simp [Value.string, Value.natural, eq_comm]
  | case3 other noText noNumber =>
    -- Anything else is refused, also a number with a sign or a fraction.
    refine iff_of_false (by simp) ?_
    rintro (same | ⟨number, same, _⟩)
    · exact noText _ same
    · exact noNumber _ same

namespace Person

/-- The part of a person's record that stands for the identifier: a member of an object, or the first item of a
list. -/
def idPart? : Value → Option Value
  | .object members => Value.member? members "id"
  | .array items => items.head?
  | .scalar _ => none

/-- A record has an identifier, as a text or as the whole number that it is the decimal form of. -/
def HasId (record : Value) (id : PersonId) : Prop :=
  idPart? record = some (.string id.text) ∨
    ∃ number, idPart? record = some (.natural number) ∧ id.text = toString number

/-- A person who has been read has the identifier of the record. -/
theorem exists_idPart?_of_decode {record : Value} {person : Person} (read : decode record = .ok person) :
    ∃ value, idPart? record = some value ∧ PersonId.decode value = .ok person.id := by
  -- In both forms of a record the identifier is the first thing that is read.
  cases record with
  | scalar value => simp [decode] at read
  | object members =>
    simp only [decode, ofMembers, bind_eq_ok_iff] at read
    obtain ⟨found, first, _, _, _, _, _, _, id, there, _, _, rest⟩ := read
    cases rest
    rw [required_eq_ok_iff] at there
    exact field?_eq_some_iff.mp (there ▸ first)
  | array items =>
    simp only [decode, ofItems, bind_eq_ok_iff] at read
    obtain ⟨⟨id, others⟩, first, _, _, _, _, _, _, _, _, rest⟩ := read
    cases rest
    cases items with
    | nil => simp [item] at first
    | cons value others =>
      refine ⟨value, rfl, ?_⟩
      cases decoded : PersonId.decode value <;> simp_all [item, Except.map]

/-- The identifier of a record is the one of the person who has been read from it. -/
theorem hasId_iff {record : Value} {person : Person} (read : decode record = .ok person) (id : PersonId) :
    HasId record id ↔ id = person.id := by
  -- The part that stands for the identifier is read as one identifier only.
  obtain ⟨value, part, decoded⟩ := exists_idPart?_of_decode read
  have same : HasId record id ↔ PersonId.decode value = .ok id := by
    simp only [HasId, part, Option.some.injEq, PersonId.decode_eq_ok_iff]
  rw [same, decoded, Except.ok.injEq, eq_comm]

/-- Two records have one identifier. -/
def SharesId (first second : Value) : Prop :=
  ∃ id, HasId first id ∧ HasId second id

variable {records : List Value} {persons : List Person}

/-- An identifier is one of the people's when one of their records has it. -/
theorem exists_hasId_iff (read : ReadAs decode records persons) (id : PersonId) :
    (∃ record ∈ records, HasId record id) ↔ id ∈ persons.map Person.id := by
  induction read with
  | nil => simp
  | cons fits _ ih => simp only [List.mem_cons, exists_eq_or_imp, List.map_cons, hasId_iff fits, ih]

/-- People have different identifiers when no two of their records share one. -/
theorem pairwise_not_sharesId_iff (read : ReadAs decode records persons) :
    records.Pairwise (fun first second => ¬SharesId first second) ↔ (persons.map Person.id).Nodup := by
  induction read with
  | nil => simp
  | cons fits rest ih =>
    rw [List.pairwise_cons, List.map_cons, List.nodup_cons, ih, ← exists_hasId_iff rest]
    simp [SharesId, hasId_iff fits]

end Person

end Kindred
