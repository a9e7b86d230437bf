import Kindred.Number.Power

/-! Numbers of 53 binary digits and a power of two: rounding a quotient to the nearest one. -/

namespace Kindred

/-- The whole number nearest to a quotient; of two equally near ones the even one. -/
def roundQuotient (num den : Nat) : Nat :=
  let whole := num / den
  let rest := 2 * (num % den)
  if rest < den ∨ (rest = den ∧ whole % 2 = 0) then whole else whole + 1

/-- The number mantissa · 2 ^ exponent. The mantissa has 53 binary digits, or fewer at the least exponent. -/
structure Binary where
  mantissa : Nat
  exponent : Int
deriving DecidableEq, Repr, Inhabited

namespace Binary

/-- The least exponent. -/
def minExponent : Int :=
  -1074

/-- The greatest exponent. -/
def maxExponent : Int :=
  971

/-- The number zero. -/
def zero : Binary :=
  ⟨0, minExponent⟩

/-- The numerator of the number as a fraction. -/
def num (x : Binary) : Nat :=
  x.mantissa * twoTo x.exponent.toNat

/-- The denominator of the number as a fraction. -/
def den (x : Binary) : Nat :=
  twoTo (-x.exponent).toNat

/-- The exponent at which a positive quotient has 53 binary digits, or the least exponent. -/
def exponentFor (num den : Nat) : Int :=
  let guess : Int := (Nat.log2 num : Int) - Nat.log2 den - 52
  let fits := den * twoTo (52 + guess).toNat ≤ num * twoTo (-(52 + guess)).toNat
  max minExponent (if fits then guess else guess - 1)

/-- The number nearest to a quotient, or nothing for one past the greatest number. -/
def ofQuotient? (num den : Nat) : Option Binary :=
  if num = 0 then
    some zero
  else
    let exponent := exponentFor num den
    let mantissa := roundQuotient (num * twoTo (-exponent).toNat) (den * twoTo exponent.toNat)
    let rounded : Binary :=
      if mantissa = twoTo 53 then ⟨twoTo 52, exponent + 1⟩ else ⟨mantissa, exponent⟩
    if rounded.exponent ≤ maxExponent then some rounded else none

/-- The number nearest to a product. -/
def mul? (x y : Binary) : Option Binary :=
  ofQuotient? (x.num * y.num) (x.den * y.den)

/-- The number nearest to a quotient of two numbers. -/
def div? (x y : Binary) : Option Binary :=
  ofQuotient? (x.num * y.den) (x.den * y.num)

/-- The 64 binary digits of the number in the double format. -/
def bits (x : Binary) : Nat :=
  if x.mantissa < twoTo 52 then x.mantissa
  else (x.exponent - minExponent + 1).toNat * twoTo 52 + (x.mantissa - twoTo 52)

/-- The decimal digits of a number, padded with zeros at the front. -/
def paddedDigits (width n : Nat) : List Char :=
  let digits := Nat.toDigits 10 n
  List.replicate (width - digits.length) '0' ++ digits

/-- The number with that many decimal places; a half goes to the even neighbour. -/
def fixed (places : Nat) (x : Binary) : String :=
  let scaled := roundQuotient (x.num * tenTo places) x.den
  String.ofList (Nat.toDigits 10 (scaled / tenTo places) ++
    '.' :: paddedDigits places (scaled % tenTo places))

end Binary

end Kindred
