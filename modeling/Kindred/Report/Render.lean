import Kindred.Json.Writer
import Kindred.Record.Kinship
import Kindred.Report.Format
import Kindred.Report.Timestamp

/-! Reports on a pair of people. -/

namespace Kindred

/-- A classification of two people, with the time and the phrase that it comes from. -/
structure KinshipReport where
  generatedAt : Timestamp
  personA : Person
  personB : Person
  result : Classification
  phrase : Option String := none
deriving DecidableEq, Repr

namespace KinshipReport

/-- A person by name and identifier. -/
def subject (person : Person) : String :=
  person.name ++ " (" ++ person.id.text ++ ")"

/-- Lines, each of them ended. -/
def endLines (lines : List String) : String :=
  String.join (lines.map (· ++ "\n"))

/-- What one person is to the other. -/
def roleLine (person : Person) (role : String) (other : Person) : String :=
  subject person ++ " is " ++ role ++ " of " ++ subject other

/-- The report as plain text. -/
def toText (report : KinshipReport) : String :=
  let result := report.result
  endLines <|
    ["Kinship Report", "=============="] ++
    (report.phrase.map ("Phrase: " ++ ·)).toList ++
    [roleLine report.personA result.roleOfA report.personB,
      roleLine report.personB result.roleOfB report.personA] ++
    (if result.evidence.isEmpty then []
      else "" :: "Evidence:" :: result.evidence.map ("  - " ++ ·)) ++
    ["", "Generated at: " ++ report.generatedAt.withOffset]

/-- A row of the table of people. -/
def tableRow (person : Person) (role : String) : String :=
  "| " ++ person.name ++ " | " ++ role ++ " | `" ++ person.id.text ++ "` |"

/-- The report in Markdown. -/
def toMarkdown (report : KinshipReport) : String :=
  let result := report.result
  endLines <|
    ["# Kinship Report", ""] ++
    (report.phrase.map fun phrase => ["> " ++ phrase, ""]).getD [] ++
    ["| Person | Role | Id |", "|--------|------|----|",
      tableRow report.personA result.roleOfA, tableRow report.personB result.roleOfB] ++
    (result.relation.commonAncestor?.map fun ancestor =>
      ["", "**Common ancestor**: `" ++ ancestor.text ++ "`"]).getD [] ++
    (if result.evidence.isEmpty then []
      else "" :: "## Evidence" :: "" :: result.evidence.map ("- " ++ ·)) ++
    ["", "---", "*Generated at: " ++ report.generatedAt.withOffset ++ "*"]

/-- The report as an object. -/
def encode (report : KinshipReport) : Json.Value :=
  .object ([("generated_at", .string report.generatedAt.withZone),
    ("person_a", report.personA.encode), ("person_b", report.personB.encode),
    ("result", report.result.encode)] ++
    (report.phrase.map fun phrase => ("phrase", Json.Value.string phrase)).toList)

/-- The report in a format. -/
def render (report : KinshipReport) : OutputFormat → String
  | .text => report.toText
  | .markdown => report.toMarkdown
  | .json => report.encode.pretty

/-- The report in the format that a word means. -/
def generate (report : KinshipReport) (format : String) : Except UnsupportedFormat String :=
  (OutputFormat.ofWord format).map report.render

end KinshipReport

end Kindred
