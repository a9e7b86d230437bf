import Kindred.Json.Number
import Kindred.Proofs.IdSource
import Mathlib.Data.List.Basic
import Mathlib.Data.List.TakeWhile

/-! A whole number is read from the way it is written. -/

namespace Kindred

/-- The digits of a number that is not zero begin with no zero. -/
theorem head?_toDigits_ne_zero {n : Nat} (positive : 0 < n) :
    (Nat.toDigits 10 n).head? ≠ some '0' := by
  -- The first digit is that of the number without its last one, until only one is left.
  induction n using Nat.strongRecOn with
  | ind n ih =>
    by_cases single : n < 10
    · rw [Nat.toDigits_of_lt_base single]
      revert positive
      exact (by decide : ∀ n < 10, 0 < n → [Nat.digitChar n].head? ≠ some '0') n single
    · rw [Nat.toDigits_of_base_le (by decide) (Nat.le_of_not_lt single),
        List.head?_append_of_ne_nil _ Nat.toDigits_ne_nil]
      exact ih (n / 10) (by omega) (by omega)

namespace Json

/-- A number has 64 binary digits, and below zero one of them is the sign. -/
def Number.IsWhole : Number → Prop
  | .natural value => value ≤ maxCount
  | .negative value => 0 < value ∧ value ≤ twoTo 63
  | .real .. => False

namespace Number

/-- Every character of a number's digits is one. -/
theorem isDigit_of_mem {n : Nat} {c : Char} (member : c ∈ Nat.toDigits 10 n) : c.isDigit = true :=
  Nat.isDigit_of_mem_toDigits (by decide) (by decide) member

/-- The digits of a number are its whole part. -/
theorem wholePart?_toDigits (n : Nat) :
    wholePart? (Nat.toDigits 10 n) = some (Nat.toDigits 10 n, []) := by
  have run : digitRun? (Nat.toDigits 10 n) = some (Nat.toDigits 10 n, []) := by
    have taken : (Nat.toDigits 10 n).takeWhile Char.isDigit = Nat.toDigits 10 n :=
      List.takeWhile_eq_self_iff.mpr fun _ => isDigit_of_mem
    have dropped : (Nat.toDigits 10 n).dropWhile Char.isDigit = [] :=
      List.dropWhile_eq_nil_iff.mpr fun _ => isDigit_of_mem
    simp [digitRun?, taken, dropped, Nat.toDigits_ne_nil]
  -- A zero stands in front only if it is the whole number.
  have noZero : ¬((Nat.toDigits 10 n).head? = some '0' ∧ Nat.toDigits 10 n ≠ ['0']) := by
    rintro ⟨zero, other⟩
    rcases Nat.eq_zero_or_pos n with rfl | positive
    · exact other (Nat.toDigits_zero 10)
    · exact head?_toDigits_ne_zero positive zero
  simp only [wholePart?, run, Option.bind_eq_bind, Option.bind_some, if_neg noZero]

/-- A whole number's text has a sign and digits, and no other part. -/
theorem literal?_signed (isNegative : Bool) (n : Nat) :
    literal? (signed isNegative (Nat.toDigits 10 n)) =
      some ⟨isNegative, Nat.toDigits 10 n, none, none⟩ := by
  have split : sign (signed isNegative (Nat.toDigits 10 n)) = (isNegative, Nat.toDigits 10 n) := by
    cases isNegative with
    | true => rfl
    | false =>
      -- A digit is no sign.
      unfold signed sign
      split
      · rename_i text written
        exact absurd (isDigit_of_mem (n := n) (c := '-') (by simp_all)) (by decide)
      · rfl
  simp [literal?, split, wholePart?_toDigits, fractionPart?, exponentPart?]

/-- One more digit behind a number. -/
def extend (value : Nat) (digit : Char) : Nat :=
  10 * value + (digit.toNat - '0'.toNat)

/-- More digits never make a number less. -/
theorem le_foldl_extend (value : Nat) (digits : List Char) : value ≤ digits.foldl extend value := by
  induction digits generalizing value with
  | nil => exact Nat.le_refl value
  | cons digit rest ih =>
    have one : value ≤ extend value digit := by
      rw [extend]
      omega
    exact Nat.le_trans one (ih (extend value digit))

/-- Digits are taken as long as the number that they make fits, so all of one that fits are. -/
theorem absorb_of_le {digits : List Char} {significand : Nat}
    (fits : digits.foldl extend significand ≤ maxCount) :
    absorb significand digits = (digits.foldl extend significand, digits.length) := by
  induction digits generalizing significand with
  | nil => rfl
  | cons digit rest ih =>
    -- What the first digits make is no more than what all of them make.
    have next : extend significand digit ≤ maxCount := Nat.le_trans (le_foldl_extend _ rest) fits
    rw [extend] at next
    simp only [absorb, if_pos next, List.foldl_cons, List.length_cons]
    rw [← extend, ih fits]

/-- The digits of a number that fits are all taken. -/
theorem absorb_toDigits {n : Nat} (fits : n ≤ maxCount) :
    absorb 0 (Nat.toDigits 10 n) = (n, (Nat.toDigits 10 n).length) := by
  have value : (Nat.toDigits 10 n).foldl extend 0 = n := decimalValue_toDigits n
  rw [absorb_of_le (by rwa [value]), value]

/-- The text of a whole number is the literal of that number. -/
theorem ofLiteral?_text {number : Number} (whole : number.IsWhole) :
    (literal? number.text).bind ofLiteral? = some number := by
  cases number with
  | natural value =>
    have plain : literal? (text (.natural value)) = some ⟨false, Nat.toDigits 10 value, none, none⟩ :=
      literal?_signed false value
    simp [plain, ofLiteral?, absorb_toDigits whole]
  | negative value =>
    obtain ⟨positive, bounded⟩ := whole
    have fits : value ≤ maxCount := Nat.le_trans bounded (by decide)
    have plain : literal? (text (.negative value)) = some ⟨true, Nat.toDigits 10 value, none, none⟩ :=
      literal?_signed true value
    simp [plain, ofLiteral?, absorb_toDigits fits, positive, bounded]
  | real isNegative value => exact whole.elim

end Number

end Json

end Kindred
