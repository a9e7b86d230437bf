import Kindred.Record.Fields
import Kindred.Text.Blank
import Kindred.Text.Lowercase

/-! The formats of a report. -/

namespace Kindred

/-- The format of a report. -/
inductive OutputFormat where
  | text
  | markdown
  | json
deriving DecidableEq, Repr, Inhabited

/-- A word that is no format. -/
structure UnsupportedFormat where
  word : String
deriving DecidableEq, Repr

/-- The message for a word that is no format. -/
def UnsupportedFormat.message (error : UnsupportedFormat) : String :=
  "Unsupported format: " ++ error.word

namespace OutputFormat

/-- The name of a format. -/
def name : OutputFormat → String
  | .text => "text"
  | .markdown => "markdown"
  | .json => "json"

/-- The names of the formats. -/
def names : List (String × OutputFormat) :=
  [text, markdown, json].map fun format => (format.name, format)

/-- The format that a word means, in any case and with any white space around it. -/
def ofWord (word : String) : Except UnsupportedFormat OutputFormat :=
  let lower := String.ofList (Text.lowercase (Text.trim word.toList))
  if lower = "text" then .ok .text
  else if lower = "markdown" ∨ lower = "md" then .ok .markdown
  else if lower = "json" then .ok .json
  else .error ⟨word⟩

/-- Reads a format from a record. -/
def decode : Record.Decoder OutputFormat :=
  Record.decodeVariant names Record.isNull

end OutputFormat

end Kindred
