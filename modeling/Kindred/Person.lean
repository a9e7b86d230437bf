/-! People, their sex, and the recorded links from parent to child. -/

namespace Kindred

/-- The identifier of a person. Identifiers are ordered by code point. -/
structure PersonId where
  text : String
deriving DecidableEq, Repr, Inhabited

namespace PersonId

instance : LT PersonId where
  lt a b := a.text < b.text

instance decidableLt (a b : PersonId) : Decidable (a < b) :=
  inferInstanceAs (Decidable (a.text < b.text))

/-- No identifier precedes itself. -/
theorem lt_irrefl (a : PersonId) : ¬a < a :=
  String.lt_irrefl a.text

/-- The order of identifiers is transitive. -/
theorem lt_trans {a b c : PersonId} (first : a < b) (second : b < c) : a < c :=
  String.lt_trans first second

/-- Of two different identifiers one precedes the other. -/
theorem lt_of_not_lt {a b : PersonId} (different : a ≠ b) (notBelow : ¬a < b) : b < a := by
  -- Two identifiers that do not precede each other have the same text.
  by_cases below : b < a
  · exact below
  · refine absurd ?_ different
    have same : a.text = b.text :=
      String.le_antisymm (String.not_lt.mp below) (String.not_lt.mp notBelow)
    cases a
    cases b
    simp_all

end PersonId

/-- The sex of a person, as far as the records tell. -/
inductive Sex where
  | male
  | female
  | unknown
deriving DecidableEq, Repr, Inhabited

/-- The word for a sex in records and on the terminal. -/
def Sex.name : Sex → String
  | .male => "male"
  | .female => "female"
  | .unknown => "unknown"

/-- The side of the family that a line of descent runs through. -/
inductive Line where
  | maternal
  | paternal
deriving DecidableEq, Repr, Inhabited

/-- The word for a line in records. -/
def Line.name : Line → String
  | .maternal => "maternal"
  | .paternal => "paternal"

/-- The line that descends through a parent of the given sex. -/
def Line.throughParent : Sex → Option Line
  | .female => some .maternal
  | .male => some .paternal
  | .unknown => none

/-- A person of the records. An empty note is a note. -/
structure Person where
  id : PersonId
  name : String
  sex : Sex := .unknown
  note : Option String := none
deriving DecidableEq, Repr, Inhabited

/-- The record that one person is a parent of another. -/
structure ParentEdge where
  parent : PersonId
  child : PersonId
deriving DecidableEq, Repr, Inhabited

namespace ParentEdge

/-- Both ends are the same person. -/
def isSelfLoop (edge : ParentEdge) : Bool :=
  edge.parent == edge.child

/-- The person is one of the ends. -/
def touches (edge : ParentEdge) (id : PersonId) : Bool :=
  edge.parent == id || edge.child == id

end ParentEdge

end Kindred
