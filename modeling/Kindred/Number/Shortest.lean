import Kindred.Number.Binary

/-! The fewest decimal digits that name a binary number. -/

namespace Kindred

/-- The number digits · 10 ^ exponent. -/
structure Decimal where
  digits : Nat
  exponent : Int
deriving DecidableEq, Repr, Inhabited

namespace Decimal

/-- How many digits a number has. -/
def digitCount (n : Nat) : Nat :=
  (Nat.toDigits 10 n).length

/-- Moves zeros from the end of the digits to the exponent, at most that many. -/
def dropZeros : Nat → Decimal → Decimal
  | 0, x => x
  | rounds + 1, x =>
    if x.digits % 10 = 0 ∧ x.digits ≠ 0 then dropZeros rounds ⟨x.digits / 10, x.exponent + 1⟩ else x

/-- How many digits a positive quotient has before the point; zeros after the point count against it. -/
def leadingPlace (num den : Nat) : Int :=
  if den ≤ num then digitCount (num / den)
  else 1 - (digitCount ((den + num - 1) / num - 1) : Int)

end Decimal

/-- The numbers that round to one number lie between two bounds, given over one denominator. -/
structure RoundingRange where
  low : Nat
  value : Nat
  high : Nat
  den : Nat
  closed : Bool

namespace RoundingRange

/-- The numbers that round to a positive number. Below a power of two the next number is half as far. -/
def ofBinary (x : Binary) : RoundingRange :=
  let up := twoTo x.exponent.toNat
  let nearBelow := x.mantissa = twoTo 52 ∧ Binary.minExponent < x.exponent
  { low := (4 * x.mantissa - (if nearBelow then 1 else 2)) * up
    value := 4 * x.mantissa * up
    high := (4 * x.mantissa + 2) * up
    den := 4 * x.den
    closed := x.mantissa % 2 = 0 }

/-- The decimal number lies in the range. -/
def contains (range : RoundingRange) (x : Decimal) : Bool :=
  let scaled := x.digits * tenTo x.exponent.toNat * range.den
  let unit := tenTo (-x.exponent).toNat
  if range.closed then range.low * unit ≤ scaled && scaled ≤ range.high * unit
  else range.low * unit < scaled && scaled < range.high * unit

/-- The neighbours of the value among the decimal numbers of one exponent that lie in the range, the nearer
one first. -/
def hits (range : RoundingRange) (exponent : Int) : List Decimal :=
  let num := range.value * tenTo (-exponent).toNat
  let den := range.den * tenTo exponent.toNat
  let below := num / den
  let ordered := if roundQuotient num den = below then [below, below + 1] else [below + 1, below]
  (ordered.map fun digits => ⟨digits, exponent⟩).filter range.contains

end RoundingRange

namespace Decimal

/-- The number with the fewest digits that rounds to the given one; of several the nearest. -/
def shortest (x : Binary) : Decimal :=
  if x.mantissa = 0 then
    ⟨0, 0⟩
  else
    let range := RoundingRange.ofBinary x
    let place := leadingPlace range.value range.den
    let found := (List.range 17).findSome? fun (count : Nat) =>
      (range.hits (place - 1 - (count : Int))).head?
    dropZeros 20 (found.getD ⟨range.value, 0⟩)

/-- The digits with the point at its place, in full. -/
def positional (x : Decimal) : List Char :=
  let digits := Nat.toDigits 10 x.digits
  let point := digits.length + x.exponent
  if 0 ≤ x.exponent then digits ++ List.replicate x.exponent.toNat '0'
  else if 0 < point then digits.take point.toNat ++ '.' :: digits.drop point.toNat
  else '0' :: '.' :: List.replicate (-point).toNat '0' ++ digits

/-- A power of ten after the letter `e`: its sign, and at least two digits. -/
def powerText (power : Int) : List Char :=
  let digits := Nat.toDigits 10 power.natAbs
  'e' :: (if power < 0 then '-' else '+') :: List.replicate (2 - digits.length) '0' ++ digits

/-- Very large and very small numbers in powers of ten, others in full and with a point. -/
def compact (x : Decimal) : List Char :=
  let digits := Nat.toDigits 10 x.digits
  let point := digits.length + x.exponent
  if x.digits = 0 then "0.0".toList
  else if 0 ≤ x.exponent ∧ point ≤ 16 then positional x ++ ['.', '0']
  else if -5 < point ∧ point ≤ 16 then positional x
  else
    match digits with
    | [digit] => digit :: powerText (point - 1)
    | first :: rest => first :: '.' :: rest ++ powerText (point - 1)
    | [] => []

end Decimal

end Kindred
