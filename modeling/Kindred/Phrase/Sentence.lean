import Kindred.Person

/-! The sentences that declare two relatives to be siblings. -/

namespace Kindred

/-- Whose relative is meant: his, the man's, or hers, the woman's. -/
inductive Pronoun where
  | his
  | her
deriving DecidableEq, Repr, Inhabited

/-- The relatives that a sentence can name. -/
inductive RelationTerm where
  | mother
  | father
  | grandfather
  | grandmother
deriving DecidableEq, Repr, Inhabited

/-- The term names a parent of a parent. -/
def RelationTerm.isGrandparent : RelationTerm → Bool
  | .grandfather | .grandmother => true
  | .mother | .father => false

/-- How one sibling stands to the other by age. -/
inductive Rank where
  | younger
  | older
deriving DecidableEq, Repr, Inhabited

/-- The word for a sibling. -/
inductive SiblingWord where
  | sister
  | brother
deriving DecidableEq, Repr, Inhabited

/-- One step from a person to a parent. -/
inductive Step where
  | mother
  | father
deriving DecidableEq, Repr, Inhabited

namespace Step

/-- The sex of the parent that the step leads to. -/
def sex : Step → Sex
  | .mother => .female
  | .father => .male

/-- The line that begins with the step. -/
def line : Step → Line
  | .mother => .maternal
  | .father => .paternal

end Step

/-- A relative of the man or of the woman, on a line where one is given. -/
structure RelativeSpec where
  pronoun : Pronoun
  term : RelationTerm
  line : Option Line
deriving DecidableEq, Repr, Inhabited

namespace RelativeSpec

/-- The step that a line begins with. Without a line it goes through the mother. -/
def firstStep (spec : RelativeSpec) : Step :=
  match spec.line with
  | some .paternal => .father
  | some .maternal | none => .mother

/-- The steps that lead up to the relative. A parent's line does not matter. -/
def steps (spec : RelativeSpec) : List Step :=
  match spec.term with
  | .mother => [.mother]
  | .father => [.father]
  | .grandmother => [spec.firstStep, .mother]
  | .grandfather => [spec.firstStep, .father]

end RelativeSpec

/-- The words between the two relatives: a rank where one is given, and a sibling. -/
structure Connector where
  rank : Option Rank
  wording : String
  sibling : SiblingWord
deriving DecidableEq, Repr, Inhabited

/-- Two relatives declared to be siblings. -/
structure Sentence where
  left : RelativeSpec
  connector : Connector
  right : RelativeSpec
deriving DecidableEq, Repr, Inhabited

end Kindred
