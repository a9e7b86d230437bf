import Kindred.Proofs.Record.Kinship
import Kindred.Report.Render

/-! A report that is written as JSON gives the people, the classification and the phrase back. -/

namespace Kindred

open Json Record

namespace KinshipReport

/-- The members that a report is written as. -/
def members (report : KinshipReport) : List (String × Value) :=
  [("generated_at", .string report.generatedAt.withZone), ("person_a", report.personA.encode),
    ("person_b", report.personB.encode), ("result", report.result.encode)] ++
    (report.phrase.map fun phrase => ("phrase", Value.string phrase)).toList

/-- No member of a report is written twice. -/
theorem nodup_members (report : KinshipReport) : (report.members.map Prod.fst).Nodup := by
  rcases report with ⟨generatedAt, personA, personB, result, _ | phrase⟩
  · exact (by decide : ["generated_at", "person_a", "person_b", "result"].Nodup)
  · exact (by decide : ["generated_at", "person_a", "person_b", "result", "phrase"].Nodup)

/-- A phrase is written if there is one. -/
theorem member?_phrase (report : KinshipReport) :
    Value.member? report.members "phrase" = report.phrase.map Value.string := by
  rcases report with ⟨generatedAt, personA, personB, result, _ | phrase⟩ <;> rfl

/-- A report is an object of texts, two people and a classification. -/
theorem fits_encode (room : Nat) {report : KinshipReport}
    (bounded : ∀ number ∈ report.result.relation.numbers, number ≤ maxCount) : Value.Fits (room + 3) report.encode := by
  have personA := Person.fits_encode (room + 1) report.personA
  have personB := Person.fits_encode (room + 1) report.personB
  have result := Classification.fits_encode room bounded
  refine .object fun member written => ?_
  rcases List.mem_append.mp written with always | phrase
  · rcases always with _ | ⟨_, _ | ⟨_, _ | ⟨_, _ | ⟨_, ⟨⟩⟩⟩⟩⟩
    · exact .scalar trivial
    · exact personA
    · exact personB
    · exact result
  · obtain ⟨text, _, same⟩ := Option.map_eq_some_iff.mp (Option.mem_toList.mp phrase)
    exact same ▸ .scalar trivial

/-- The members of an object that a report has been read as give the report back, by the readers of its parts. -/
structure GivesBack (report : KinshipReport) (members : List (String × Value)) : Prop where
  personA : field? members "person_a" Person.decode = .ok (some report.personA)
  personB : field? members "person_b" Person.decode = .ok (some report.personB)
  result : field? members "result" Classification.decode = .ok (some report.result)
  /-- The phrase stands there when the report has one, and only then. -/
  phrase : Value.member? members "phrase" = report.phrase.map Value.string
  generatedAt : Value.member? members "generated_at" = some (.string report.generatedAt.withZone)

/-- What a report is read as gives it back. -/
theorem givesBack (report : KinshipReport) : report.GivesBack (Value.membersAsRead [] report.members) := by
  have once := nodup_members report
  -- Each member is found by its key, wherever the order of the keys has put it.
  refine ⟨?_, ?_, ?_, ?_, ?_⟩
  · exact field?_of_written once rfl (Person.decode_encode report.personA)
  · exact field?_of_written once rfl (Person.decode_encode report.personB)
  · exact field?_of_written once rfl (Classification.decode_encode report.result)
  · rw [Value.member?_membersAsRead once, member?_phrase]
    cases report.phrase <;> rfl
  · rw [Value.member?_membersAsRead once]
    rfl

/-- A report in JSON loses nothing: whatever its texts are and whatever the relation is, as long as its numbers have
64 binary digits, there is a text, and it is read as an object that gives the report back. -/
theorem generate_json_givesBack (report : KinshipReport)
    (bounded : ∀ number ∈ report.result.relation.numbers, number ≤ maxCount) :
    ∃ text members, report.generate "json" = .ok text ∧ Value.ofText text = .ok (.object members) ∧
      report.GivesBack members := by
  have generated : report.generate "json" = .ok report.encode.pretty := rfl
  -- Of the containers that may stand around a value a report needs three.
  have read : Value.ofText report.encode.pretty = .ok report.encode.asRead :=
    Value.ofText_pretty (fits_encode 124 bounded)
  exact ⟨_, _, generated, read, report.givesBack⟩

/-- A descent of as many generations as can be told, through a parent of unknown sex, and cousins come back, with marks,
control characters and letters of any script, with an empty note and an empty phrase, and without them. -/
theorem generate_json_givesBack_with_marks :
    let person : Person := ⟨⟨"\"p\\1"⟩, "Ёлка\n\x01\t/", .female, some ""⟩
    let other : Person := ⟨⟨"42"⟩, "李\x7f", .unknown, none⟩
    let descent : KinshipReport :=
      ⟨⟨0, 0⟩, person, other, ⟨"предок", "", .directLine maxCount true none, ["a → b", "\"", ""]⟩, some ""⟩
    let cousins : KinshipReport :=
      ⟨⟨-1, 5⟩, other, person, ⟨"кузина", "кузен", .cousins 0 3 ⟨"null"⟩, []⟩, none⟩
    (∃ text members, descent.generate "json" = .ok text ∧ Value.ofText text = .ok (.object members) ∧
      descent.GivesBack members) ∧
    ∃ text members, cousins.generate "json" = .ok text ∧ Value.ofText text = .ok (.object members) ∧
      cousins.GivesBack members := by
  intro person other descent cousins
  exact ⟨generate_json_givesBack descent (by decide), generate_json_givesBack cousins (by decide)⟩

end KinshipReport

end Kindred
