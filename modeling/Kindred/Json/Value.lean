import Kindred.Json.Number

/-! The values of JSON. -/

namespace Kindred.Json

/-- A value without parts. -/
inductive Scalar where
  | null
  | bool (value : Bool)
  | number (value : Number)
  | string (value : String)
deriving DecidableEq, Repr, Inhabited

/-- A value. The members of an object stand in the order in which they are written. -/
inductive Value where
  | scalar (value : Scalar)
  | array (items : List Value)
  | object (members : List (String × Value))
deriving Inhabited

namespace Value

/-- The value that stands for nothing. -/
def null : Value :=
  .scalar .null

/-- A truth value. -/
def bool (value : Bool) : Value :=
  .scalar (.bool value)

/-- A whole number. -/
def natural (value : Nat) : Value :=
  .scalar (.number (.natural value))

/-- A text. -/
def string (value : String) : Value :=
  .scalar (.string value)

/-- A member of an object. -/
def member? (members : List (String × Value)) (key : String) : Option Value :=
  members.lookup key

/-- Writes a member into an object whose keys are in increasing order, over the one of the same key. -/
def putMember (key : String) (value : Value) : List (String × Value) → List (String × Value)
  | [] => [(key, value)]
  | (other, held) :: rest =>
    if key < other then (key, value) :: (other, held) :: rest
    else if key = other then (key, value) :: rest
    else (other, held) :: putMember key value rest

end Value

end Kindred.Json
