/-! Numbers as runs of digits. -/

namespace Kindred

/-- The largest value of a counter of 64 binary digits. -/
def maxCount : Nat :=
  18446744073709551615

/-- The number written by a run of decimal digits. -/
def decimalValue (digits : List Char) : Nat :=
  digits.foldl (fun value digit => 10 * value + (digit.toNat - '0'.toNat)) 0

/-- The digits after one optional plus sign. -/
def unsignedDigits : List Char → List Char
  | '+' :: digits => digits
  | digits => digits

/-- Reads a counter: decimal digits, with a plus sign or without one, of a value that fits. -/
def readCount? (text : List Char) : Option UInt64 :=
  let digits := unsignedDigits text
  if digits ≠ [] ∧ digits.all Char.isDigit ∧ decimalValue digits ≤ maxCount then
    some (UInt64.ofNat (decimalValue digits))
  else
    none

/-- The sign in front of a number, and the rest: below zero after a minus. -/
def splitSign : List Char → Bool × List Char
  | '+' :: text => (false, text)
  | '-' :: text => (true, text)
  | text => (false, text)

/-- The sign of a number in front of its digits. -/
def signed (isNegative : Bool) (digits : List Char) : List Char :=
  if isNegative then '-' :: digits else digits

/-- The value of a digit in a base up to sixteen. -/
def digitValue? (base : Nat) (c : Char) : Option Nat :=
  let value :=
    if c.isDigit then c.toNat - '0'.toNat
    else if 'a' ≤ c ∧ c ≤ 'f' then c.toNat - 'a'.toNat + 10
    else if 'A' ≤ c ∧ c ≤ 'F' then c.toNat - 'A'.toNat + 10
    else base
  if value < base then some value else none

end Kindred
