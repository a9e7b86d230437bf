import Kindred.Person
import Kindred.Text.Lowercase

/-! Reading a sex from a word. -/

namespace Kindred

/-- A word that is no sex, in lower case. -/
structure UnknownSex where
  word : String
deriving DecidableEq, Repr

/-- The message for a word that is no sex. -/
def UnknownSex.message (error : UnknownSex) : String :=
  "Unknown sex: " ++ error.word

/-- The sex that a word means, in any case: a name, its first letter for the known ones, or nothing at all. -/
def Sex.ofWord (word : String) : Except UnknownSex Sex :=
  let lower := Text.lowercaseString word
  if lower = "male" ∨ lower = "m" then .ok .male
  else if lower = "female" ∨ lower = "f" then .ok .female
  else if lower = "unknown" ∨ lower = "" then .ok .unknown
  else .error ⟨lower⟩

end Kindred
