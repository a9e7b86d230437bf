import Kindred.Number.Digits
import Kindred.Number.Shortest

/-! Numbers with a point, with the two infinities and the value that is no number. -/

namespace Kindred

/-- A binary number with a sign, or one of the values past all of them. -/
inductive Real where
  | finite (isNegative : Bool) (value : Binary)
  | infinite (isNegative : Bool)
  | notANumber
deriving DecidableEq, Repr, Inhabited

namespace Real

/-- Digits with a point among them, times a power of ten. -/
structure Literal where
  whole : List Char
  fraction : List Char
  exponent : Int

/-- A whole number with a sign or without one. -/
def exponent? (text : List Char) : Option Int :=
  let (isNegative, digits) := splitSign text
  if digits ≠ [] ∧ digits.all Char.isDigit then
    some (if isNegative then -(decimalValue digits : Int) else (decimalValue digits : Int))
  else
    none

/-- The digits after the point, and what follows them. Without a point there are none. -/
def splitFraction : List Char → List Char × List Char
  | '.' :: text => (text.takeWhile Char.isDigit, text.dropWhile Char.isDigit)
  | text => ([], text)

/-- The parts of a number without a sign. A digit must stand on one side of the point. -/
def literal? (text : List Char) : Option Literal :=
  let whole := text.takeWhile Char.isDigit
  let (fraction, rest) := splitFraction (text.dropWhile Char.isDigit)
  if whole = [] ∧ fraction = [] then
    none
  else
    match rest with
    | [] => some ⟨whole, fraction, 0⟩
    | c :: power => if c = 'e' ∨ c = 'E' then (exponent? power).map (⟨whole, fraction, ·⟩) else none

/-- No number with a digit further from the point than this is near a binary one other than zero. -/
def farthestPlace : Int :=
  400

/-- The number nearest to a literal, or nothing for one past the greatest number. -/
def Literal.nearest? (l : Literal) : Option Binary :=
  let significand := decimalValue (l.whole ++ l.fraction)
  let exponent := l.exponent - l.fraction.length
  let place := exponent + Decimal.digitCount significand
  if significand = 0 ∨ place < -farthestPlace then some .zero
  else if farthestPlace < place then none
  else Binary.ofQuotient? (significand * tenTo exponent.toNat) (tenTo (-exponent).toNat)

/-- The value of a literal, with a sign in front. -/
def Literal.value (l : Literal) (isNegative : Bool) : Real :=
  match l.nearest? with
  | some value => .finite isNegative value
  | none => .infinite isNegative

/-- Lower case for the letters from A to Z. -/
def lowerAscii (text : List Char) : List Char :=
  text.map Char.toLower

/-- Reads a number: digits with a point and a power of ten, or a word in any case. -/
def ofText? (text : List Char) : Option Real :=
  let (isNegative, body) := splitSign text
  let word := String.ofList (lowerAscii body)
  if word = "inf" ∨ word = "infinity" then some (.infinite isNegative)
  else if word = "nan" then some .notANumber
  else (literal? body).map (Literal.value · isNegative)

/-- The number is neither infinite nor no number. -/
def isFinite : Real → Bool
  | .finite .. => true
  | _ => false

/-- The number is zero, with either sign. -/
def isZero : Real → Bool
  | .finite _ value => value.mantissa = 0
  | _ => false

/-- The whole number nearest to a number; a half goes away from zero. Below zero it is zero, and past the
largest count that one. -/
def toCount : Real → Nat
  | .finite false value => min maxCount ((2 * value.num + value.den) / (2 * value.den))
  | .infinite false => maxCount
  | _ => 0

/-- The shortest text of a number, in full. -/
def text : Real → List Char
  | .finite isNegative value => signed isNegative (Decimal.shortest value).positional
  | .infinite isNegative => signed isNegative "inf".toList
  | .notANumber => "NaN".toList

end Real

end Kindred
