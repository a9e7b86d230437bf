import Kindred.Number.Real

/-! What plain scalars stand for. -/

namespace Kindred.Yaml

/-- The number that digits of a base make, the value so far given. -/
def digitsAfter? (base value : Nat) : List Char → Option Nat
  | [] => some value
  | c :: rest => (digitValue? base c).bind fun digit => digitsAfter? base (base * value + digit) rest

/-- The number that one digit or several make. -/
def digits? (base : Nat) (text : List Char) : Option Nat :=
  if text.isEmpty then none else digitsAfter? base 0 text

/-- A number in base sixteen, eight or two, with the mark of its base in front. -/
def based? : List Char → Option Nat
  | '0' :: 'x' :: digits => digits? 16 digits
  | '0' :: 'o' :: digits => digits? 8 digits
  | '0' :: 'b' :: digits => digits? 2 digits
  | _ => none

/-- Digits with a needless zero in front, which are no number. -/
def hasNeedlessZero (text : List Char) : Bool :=
  match (splitSign text).2 with
  | '0' :: rest => rest ≠ [] && rest.all Char.isDigit
  | _ => false

/-- The natural number that a plain scalar stands for. A plus sign may stand in front. -/
def natural? (text : String) : Option Nat :=
  let body := unsignedDigits text.toList
  (based? body).or (if hasNeedlessZero body then none else digits? 10 body)

/-- The truth value that a plain scalar stands for. -/
def flag? (text : String) : Option Bool :=
  if ["true", "True", "TRUE"].contains text then some true
  else if ["false", "False", "FALSE"].contains text then some false
  else none

/-- The plain scalar stands for nothing. -/
def isNull (text : String) : Bool :=
  ["", "~", "null", "Null", "NULL"].contains text

/-- One past the largest whole number that is told from a text. -/
def integerBound : Nat :=
  twoTo 128

/-- The plain scalar is a whole number with the mark of a base. -/
def isBasedInteger (text : List Char) : Bool :=
  match text with
  | '-' :: body => (based? body).any fun value => 2 * value ≤ integerBound
  | _ => (based? (unsignedDigits text)).any fun value => value < integerBound

/-- The plain scalar is a number with a point, or a word for one past all numbers. -/
def isReal (text : String) : Bool :=
  [".nan", ".NaN", ".NAN"].contains text ||
    ["", "+", "-"].any (fun sign =>
      [".inf", ".Inf", ".INF"].any fun word => text = sign ++ word) ||
    (Real.ofText? text.toList).any Real.isFinite

/-- The text would not read back as a text if it stood without quotes. -/
def standsForOther (text : String) : Bool :=
  isNull text || (flag? text).isSome || isBasedInteger text.toList || hasNeedlessZero text.toList ||
    isReal text

end Kindred.Yaml
