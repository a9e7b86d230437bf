import Kindred.Number.Digits
import Kindred.Number.Shortest

/-! The numbers of JSON, as their digits are read. -/

namespace Kindred.Json

/-- A whole number of 64 binary digits, with or without a sign, or any other number as a binary one. -/
inductive Number where
  | natural (value : Nat)
  /-- The number below zero with this absolute value. -/
  | negative (value : Nat)
  | real (isNegative : Bool) (value : Binary)
deriving DecidableEq, Repr, Inhabited

namespace Number

/-- The digits of a number as they are written. -/
structure Literal where
  isNegative : Bool
  whole : List Char
  fraction : Option (List Char)
  exponent : Option (Bool × List Char)

/-- A run of digits at the head of a text, and what follows it. There is at least one. -/
def digitRun? (text : List Char) : Option (List Char × List Char) :=
  let digits := text.takeWhile Char.isDigit
  if digits.isEmpty then none else some (digits, text.dropWhile Char.isDigit)

/-- The digits before the point. Only zero itself begins with a zero. -/
def wholePart? (text : List Char) : Option (List Char × List Char) := do
  let (digits, rest) ← digitRun? text
  if digits.head? = some '0' ∧ digits ≠ ['0'] then none else some (digits, rest)

/-- The digits after a point, if there is a point. -/
def fractionPart? : List Char → Option (Option (List Char) × List Char)
  | '.' :: text => (digitRun? text).map fun (digits, rest) => (some digits, rest)
  | text => some (none, text)

/-- The exponent, if there is one. -/
def exponentPart? : List Char → Option (Option (Bool × List Char) × List Char)
  | c :: text =>
    if c = 'e' ∨ c = 'E' then
      let (isNegative, text) := splitSign text
      (digitRun? text).map fun (digits, rest) => (some (isNegative, digits), rest)
    else
      some (none, c :: text)
  | [] => some (none, [])

/-- The sign of a number. -/
def sign : List Char → Bool × List Char
  | '-' :: text => (true, text)
  | text => (false, text)

/-- The parts of a word that is a number from its first character to its last. -/
def literal? (word : List Char) : Option Literal := do
  let (isNegative, text) := sign word
  let (whole, text) ← wholePart? text
  let (fraction, text) ← fractionPart? text
  let (exponent, text) ← exponentPart? text
  if text.isEmpty then some ⟨isNegative, whole, fraction, exponent⟩ else none

/-- Takes digits as long as the number they make has 64 binary digits, and counts them. -/
def absorb (significand : Nat) : List Char → Nat × Nat
  | [] => (significand, 0)
  | digit :: rest =>
    let next := 10 * significand + (digit.toNat - '0'.toNat)
    if next ≤ maxCount then
      let (last, taken) := absorb next rest
      (last, taken + 1)
    else
      (significand, 0)

/-- The greatest power of ten that a binary number can be near. -/
def maxPower : Nat :=
  308

/-- A number divided by a power of ten, in one step or in steps of the greatest power. Two such steps make
zero of any number with a significand of 64 binary digits. -/
def scaleDown (value : Binary) (power : Nat) : Option Binary :=
  let divide (x : Binary) (power : Nat) : Option Binary :=
    (Binary.ofQuotient? (tenTo power) 1).bind x.div?
  if power ≤ maxPower then
    divide value power
  else
    (divide value maxPower).bind fun value =>
      if power - maxPower ≤ maxPower then divide value (power - maxPower) else some .zero

/-- A significand times a power of ten. The significand and the power are rounded first, then the product
or the quotient. Nothing is past the greatest binary number. -/
def scale (significand : Nat) (exponent : Int) : Option Binary :=
  (Binary.ofQuotient? significand 1).bind fun value =>
    if significand = 0 then
      some .zero
    else if 0 ≤ exponent then
      if exponent ≤ maxPower then (Binary.ofQuotient? (tenTo exponent.toNat) 1).bind value.mul?
      else none
    else
      scaleDown value (-exponent).toNat

/-- The value of an exponent. -/
def exponentValue : Option (Bool × List Char) → Int
  | none => 0
  | some (isNegative, digits) =>
    if isNegative then -(decimalValue digits : Int) else (decimalValue digits : Int)

/-- The number that a literal stands for. A whole number that fits is exact. Past 64 binary digits the other
digits of a part only move the point. -/
def ofLiteral? (l : Literal) : Option Number :=
  let (significand, taken) := absorb 0 l.whole
  let dropped := l.whole.length - taken
  if l.fraction.isNone ∧ l.exponent.isNone ∧ dropped = 0 ∧ !l.isNegative then
    some (.natural significand)
  else if l.fraction.isNone ∧ l.exponent.isNone ∧ dropped = 0 ∧ 0 < significand ∧
      significand ≤ twoTo 63 then
    some (.negative significand)
  else
    let (significand, places) := absorb significand (l.fraction.getD [])
    (scale significand ((dropped : Int) - places + exponentValue l.exponent)).map fun value =>
      .real l.isNegative value

/-- The text of a number. -/
def text : Number → List Char
  | .natural value => Nat.toDigits 10 value
  | .negative value => signed true (Nat.toDigits 10 value)
  | .real isNegative value => signed isNegative (Decimal.shortest value).compact

end Number

end Kindred.Json
