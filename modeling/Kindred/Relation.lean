import Kindred.Person

/-! The ways in which two people are related, and a classification of one pair. -/

namespace Kindred

/-- What the first person of a pair is to the second, without words. -/
inductive Relation where
  | notFound
  | samePerson
  /-- One descends from the other, through a parent on the given line when that parent's sex is known. -/
  | directLine (generations : Nat) (aIsAncestor : Bool) (line : Option Line)
  | siblings (commonAncestor : PersonId)
  /-- One is a sibling of an ancestor of the other. -/
  | auntUncle (degree : Nat) (aIsSenior : Bool) (commonAncestor : PersonId)
  | cousins (degree : Nat) (removal : Nat) (commonAncestor : PersonId)
deriving DecidableEq, Repr, Inhabited

/-- The ancestor that two collateral relatives share. -/
def Relation.commonAncestor? : Relation → Option PersonId
  | .siblings ancestor => some ancestor
  | .auntUncle _ _ ancestor => some ancestor
  | .cousins _ _ ancestor => some ancestor
  | .notFound | .samePerson | .directLine .. => none

/-- The relation of a pair, the word for each of the two, and what shows it. -/
structure Classification where
  roleOfA : String
  roleOfB : String
  relation : Relation
  evidence : List String
deriving DecidableEq, Repr, Inhabited

/-- Some relation holds. -/
def Classification.isFound (result : Classification) : Bool :=
  result.relation != .notFound

end Kindred
