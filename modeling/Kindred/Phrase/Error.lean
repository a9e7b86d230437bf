import Kindred.Person

/-! Why a phrase is no sentence. -/

namespace Kindred

/-- The classes of words that a sentence can need at some place. -/
inductive Expected where
  | pronoun
  | relationTerm
  | linePreposition
  | lineSide
  | lineWord
  | siblingWord
deriving DecidableEq, Repr

/-- A class in words, with examples. -/
def Expected.description : Expected → String
  | .pronoun => "pronoun (его/её)"
  | .relationTerm => "relation term (мать/отец/дедушка/бабушка)"
  | .linePreposition => "'по'"
  | .lineSide => "line side (материнской/отцовской)"
  | .lineWord => "'линии'"
  | .siblingWord => "sibling word (брат/сестра)"

/-- The first place where a phrase leaves the grammar. There is no word at its end. -/
inductive ParseError where
  | emptyInput
  | unknownPronoun (position : Nat) (found : Option String)
  | unknownRelationTerm (position : Nat) (found : Option String)
  | missingLineClause (term : String) (position : Nat) (found : Option String)
  | malformedLineClause (expected : Expected) (position : Nat) (found : Option String)
  | unexpectedLineClause (term : String) (position : Nat)
  | missingSiblingWord (position : Nat) (found : Option String)
deriving DecidableEq, Repr

namespace ParseError

/-- The class of words that would go on at the place of the error. -/
def expected? : ParseError → Option Expected
  | .emptyInput => none
  | .unknownPronoun .. => some .pronoun
  | .unknownRelationTerm .. => some .relationTerm
  | .missingLineClause .. => some .linePreposition
  | .malformedLineClause expected .. => some expected
  | .unexpectedLineClause .. => none
  | .missingSiblingWord .. => some .siblingWord

/-- The place of the error, which is the start for a phrase without words. -/
def position : ParseError → Nat
  | .emptyInput => 0
  | .unknownPronoun position _ => position
  | .unknownRelationTerm position _ => position
  | .missingLineClause _ position _ => position
  | .malformedLineClause _ position _ => position
  | .unexpectedLineClause _ position => position
  | .missingSiblingWord position _ => position

/-- A word that stands where it may not, or the end of the phrase. -/
def describe : Option String → String
  | some word => "'" ++ word ++ "'"
  | none => "end of input"

/-- The place of an error and what stands there. -/
def atPlace (position : Nat) (found : Option String) : String :=
  " at token " ++ toString position ++ ", found " ++ describe found

/-- The message of an error. -/
def message : ParseError → String
  | .emptyInput => "Phrase is empty"
  | .unknownPronoun position found =>
    "Expected " ++ Expected.pronoun.description ++ atPlace position found
  | .unknownRelationTerm position found =>
    "Expected " ++ Expected.relationTerm.description ++ atPlace position found
  | .missingLineClause term position found =>
    "Grandparent term '" ++ term ++
      "' requires a line clause (по материнской/отцовской линии)" ++ atPlace position found
  | .malformedLineClause expected position found =>
    "Malformed line clause: expected " ++ expected.description ++ atPlace position found
  | .unexpectedLineClause term position =>
    "Parent term '" ++ term ++ "' does not take a line clause (token " ++ toString position ++ ")"
  | .missingSiblingWord position found =>
    "Expected " ++ Expected.siblingWord.description ++ atPlace position found

end ParseError

end Kindred
