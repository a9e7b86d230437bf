import Kindred.Lexicon
import Kindred.Proofs.IdSource
import Kindred.Proofs.Text.Words
import Mathlib.Data.List.ProdSigma

/-! The words for relatives can be read back. What one of two people is called tells what they are to each other and,
unless the words have no gender, whether that one is a man or a woman. -/

namespace Kindred

/-- What the first of two people is to the second, as far as there are words for it. -/
inductive Bond where
  | notFound
  | samePerson
  | directLine (generations : Nat) (aIsAncestor : Bool)
  | siblings
  /-- The senior is a sibling of an ancestor of the other. -/
  | auntUncle (degree : Nat) (aIsSenior : Bool)
  /-- The nearer one stands fewer steps below the common ancestor, by as many as the removal says. -/
  | cousins (degree removal : Nat) (aIsNearer : Bool)
deriving DecidableEq, Repr

namespace Bond

/-- Generations and degrees count from one, and where there is no removal the first person counts as the nearer. -/
def Occurs : Bond → Prop
  | .directLine generations _ => 1 ≤ generations
  | .auntUncle degree _ => 1 ≤ degree
  | .cousins degree removal aIsNearer => 1 ≤ degree ∧ (removal = 0 → aIsNearer = true)
  | .notFound | .samePerson | .siblings => True

/-- The words have a gender. Those with a number of generations, and those with a distance alone, have none. -/
def ShowsSex : Bond → Prop
  | .notFound | .samePerson => False
  | .directLine generations _ => generations ≤ 3
  | .auntUncle degree _ => degree ≤ 3
  | .siblings | .cousins .. => True

instance : DecidablePred ShowsSex
  | .notFound | .samePerson => .isFalse id
  | .directLine generations _ => inferInstanceAs (Decidable (generations ≤ 3))
  | .auntUncle degree _ => inferInstanceAs (Decidable (degree ≤ 3))
  | .siblings | .cousins .. => .isTrue trivial

/-- The words for the two people. The lexicon names the ancestor, the senior or the nearer one first. -/
def words : Bond → Sex → Sex → String × String
  | .notFound, _, _ => (Lexicon.notFound, Lexicon.notFound)
  | .samePerson, _, _ => (Lexicon.samePerson, Lexicon.samePerson)
  | .directLine generations true, a, b => Lexicon.directTerms generations a b
  | .directLine generations false, a, b => (Lexicon.directTerms generations b a).swap
  | .siblings, a, b => (Lexicon.siblingTerm a, Lexicon.siblingTerm b)
  | .auntUncle degree true, a, b => Lexicon.auntFamilyTerms degree a b
  | .auntUncle degree false, a, b => (Lexicon.auntFamilyTerms degree b a).swap
  | .cousins degree removal true, a, b => Lexicon.cousinTerms degree removal a b
  | .cousins degree removal false, a, b => (Lexicon.cousinTerms degree removal b a).swap

/-- The bond seen from the other of the two people. -/
def mirror : Bond → Bond
  | .directLine generations aIsAncestor => .directLine generations (!aIsAncestor)
  | .auntUncle degree aIsSenior => .auntUncle degree (!aIsSenior)
  | .cousins degree removal aIsNearer => .cousins degree removal (removal = 0 || !aIsNearer)
  | .notFound => .notFound
  | .samePerson => .samePerson
  | .siblings => .siblings

variable {bond : Bond}

/-- Seen from the other side a bond occurs as well. -/
theorem Occurs.mirror (occurs : bond.Occurs) : bond.mirror.Occurs := by
  cases bond with
  | cousins degree removal aIsNearer => exact ⟨occurs.1, fun none => by simp [none]⟩
  | _ => exact occurs

/-- Seen from both sides in turn a bond is the same. -/
theorem Occurs.mirror_mirror (occurs : bond.Occurs) : bond.mirror.mirror = bond := by
  cases bond with
  | cousins degree removal aIsNearer =>
    by_cases none : removal = 0
    · simp [Bond.mirror, none, occurs.2 none]
    · simp [Bond.mirror, none]
  | directLine | auntUncle => simp [Bond.mirror]
  | notFound | samePerson | siblings => rfl

/-- The words have a gender for both people or for neither. -/
theorem showsSex_mirror (bond : Bond) : bond.mirror.ShowsSex ↔ bond.ShowsSex := by
  cases bond <;> rfl

/-- Seen from the other side the words change places. -/
theorem Occurs.words_mirror (occurs : bond.Occurs) (a b : Sex) : bond.mirror.words b a = (bond.words a b).swap := by
  cases bond with
  | cousins degree removal aIsNearer =>
    by_cases none : removal = 0
    · -- Without a removal both words are of one kind.
      simp only [Bond.mirror, none, occurs.2 none, decide_true, Bool.true_or]
      rfl
    · cases aIsNearer <;> simp [Bond.mirror, none, words]
  | directLine _ up | auntUncle _ up => cases up <;> simp [Bond.mirror, words]
  | notFound | samePerson | siblings => rfl

end Bond

namespace Lexicon

/-- The three ways in which a word can be inflected. -/
def sexes : List Sex :=
  [.male, .female, .unknown]

/-- All concepts that have words. -/
def concepts : List Concept :=
  [.parent, .child, .grandparent, .grandchild, .greatGrandparent, .greatGrandchild, .sibling, .auntUncle,
    .nieceNephew]

/-- The concept and the sex for which a word stands. -/
def meaning? (text : List Char) : Option (Concept × Sex) :=
  (concepts.product sexes).find? fun meant => (word meant.1 meant.2).toList = text

/-- The ordinal and the sex for which an adjective stands. -/
def ordinal? (text : List Char) : Option (Nat × Sex) :=
  ([2, 3, 4, 5].product sexes).find? fun meant =>
    (ordinalStem? meant.1).map (fun stem => (inflect stem meant.2).toList) = some text

/-- What is told by a word alone. -/
def bondOfWord : Concept → Bond
  | .parent => .directLine 1 true
  | .child => .directLine 1 false
  | .grandparent => .directLine 2 true
  | .grandchild => .directLine 2 false
  | .greatGrandparent => .directLine 3 true
  | .greatGrandchild => .directLine 3 false
  | .sibling => .siblings
  | .auntUncle => .auntUncle 1 true
  | .nieceNephew => .auntUncle 1 false

/-- What is told by the word for a cousin. That of a sibling stands for cousins of one generation. -/
def bondOfCousin (degree removal : Nat) (concept : Concept) : Bond :=
  .cousins degree (if concept = .sibling then 0 else removal) (concept ≠ .nieceNephew)

/-- What is told by a word behind an ordinal. The ordinal of a great-aunt is her degree, that of a cousin is one
more. -/
def bondOfOrdinal (ordinal : Nat) : Concept → Bond
  | .grandparent => .auntUncle ordinal true
  | .grandchild => .auntUncle ordinal false
  | concept => bondOfCousin (ordinal - 1) 1 concept

/-- The number in front of an ending of two characters. -/
def numberBefore (text : List Char) : Nat :=
  decimalValue text.dropLast.dropLast

/-- What is told by some words about two people, and about the sex of the one whom they name. -/
def read? : List (List Char) → Option (Bond × Option Sex)
  | [noun] => (meaning? noun).map fun meant => (bondOfWord meant.1, some meant.2)
  | [adjective, noun] =>
    (ordinal? adjective).bind fun ordinal =>
      (meaning? noun).map fun meant => (bondOfOrdinal ordinal.1 meant.1, some meant.2)
  | [first, second, third] =>
    if second = "поколение".toList then some (.directLine (decimalValue third) (first = "предок,".toList), none)
    else if third = "найдена".toList then some (.notFound, none)
    else if third = "человек".toList then some (.samePerson, none)
    else
      (meaning? first).map fun meant => (bondOfCousin (numberBefore second) 1 meant.1, some meant.2)
  | [first, second, _, fourth] =>
    match ordinal? first with
    | some ordinal =>
      -- A comma stands behind the noun.
      (meaning? second.dropLast).map fun meant =>
        (bondOfCousin (ordinal.1 - 1) (decimalValue fourth) meant.1, some meant.2)
    | none => some (.auntUncle (decimalValue fourth) (second = "предок,".toList), none)
  | [first, second, _, _, fifth] =>
    (meaning? first).map fun meant =>
      (bondOfCousin (numberBefore second) (decimalValue fifth) meant.1, some meant.2)
  | _ => none

/-- What is told by a label. -/
def readBack (label : String) : Option (Bond × Option Sex) :=
  read? (label.toList.splitOn ' ')

/-- A label is read word by word. -/
theorem readBack_eq_read? {label : String} {words : List (List Char)} (spelled : label.toList = Text.joinWords words)
    (nonempty : words ≠ []) (free : ∀ word ∈ words, ' ' ∉ word) : readBack label = read? words := by
  -- The words are joined by blanks, and none of them has one inside.
  rw [readBack, spelled, Text.joinWords_eq_intercalate, List.splitOn_intercalate ' ' free nonempty]

/-- A word stands for its concept and its sex, and has no blank inside. -/
theorem meaning?_word (concept : Concept) (sex : Sex) :
    meaning? (word concept sex).toList = some (concept, sex) ∧ ' ' ∉ (word concept sex).toList := by
  have listed : ∀ meant ∈ concepts.product sexes,
      meaning? (word meant.1 meant.2).toList = some meant ∧ ' ' ∉ (word meant.1 meant.2).toList := by
    decide +kernel
  exact listed (concept, sex) (by cases concept <;> cases sex <;> decide)

/-- An adjective stands for its ordinal and its sex, and has no blank inside. -/
theorem ordinal?_inflect {ordinal : Nat} {stem : String} (known : ordinalStem? ordinal = some stem) (sex : Sex) :
    ordinal? (inflect stem sex).toList = some (ordinal, sex) ∧ ' ' ∉ (inflect stem sex).toList := by
  have listed : ∀ ordinal ∈ [2, 3, 4, 5], ∀ sex ∈ sexes, ∀ stem ∈ ordinalStem? ordinal,
      ordinal? (inflect stem sex).toList = some (ordinal, sex) ∧ ' ' ∉ (inflect stem sex).toList := by
    decide +kernel
  refine listed ordinal ?_ sex (by cases sex <;> decide) stem known
  -- No other ordinal has a stem.
  unfold ordinalStem? at known
  split at known
  all_goals simp_all

/-- A number has no blank inside. -/
theorem blank_not_mem_toDigits (n : Nat) : ' ' ∉ Nat.toDigits 10 n := by
  intro member
  have digit : ' '.isDigit := Nat.isDigit_of_mem_toDigits (by decide) (by decide) member
  exact absurd digit (by decide)

/-- A number is read in front of its ending. -/
theorem numberBefore_toDigits (n : Nat) (first second : Char) :
    numberBefore (Nat.toDigits 10 n ++ [first, second]) = n := by
  simp [numberBefore, decimalValue_toDigits]

/-- The labels without a relation are read back. -/
theorem readBack_unrelated :
    readBack Lexicon.notFound = some (.notFound, none) ∧ readBack Lexicon.samePerson = some (.samePerson, none) := by
  decide

/-- A word alone is read back. -/
theorem readBack_word (concept : Concept) (sex : Sex) :
    readBack (word concept sex) = some (bondOfWord concept, some sex) := by
  obtain ⟨told, free⟩ := meaning?_word concept sex
  have spelled : (word concept sex).toList = Text.joinWords [(word concept sex).toList] := rfl
  rw [readBack_eq_read? spelled (by simp) (by simp [free])]
  simp [read?, told]

/-- A word behind an ordinal is read back. -/
theorem readBack_ordinal {ordinal : Nat} {stem : String} (known : ordinalStem? ordinal = some stem) (sex : Sex)
    (concept : Concept) :
    readBack (inflect stem sex ++ " " ++ word concept sex) = some (bondOfOrdinal ordinal concept, some sex) := by
  -- Both words are inflected for the same sex, so that of the noun need not be asked for.
  obtain ⟨toldOrdinal, freeOrdinal⟩ := ordinal?_inflect known sex
  obtain ⟨told, free⟩ := meaning?_word concept sex
  have spelled : (inflect stem sex ++ " " ++ word concept sex).toList =
      Text.joinWords [(inflect stem sex).toList, (word concept sex).toList] := by simp [Text.joinWords]
  rw [readBack_eq_read? spelled (by simp) (by simp [freeOrdinal, free])]
  simp [read?, toldOrdinal, told]

/-- A direct line of many generations is read back. -/
theorem readBack_distant (generations : Nat) :
    readBack ("предок, поколение " ++ toString generations) = some (.directLine generations true, none) ∧
      readBack ("потомок, поколение " ++ toString generations) = some (.directLine generations false, none) := by
  have free := blank_not_mem_toDigits generations
  constructor
  · have spelled : ("предок, поколение " ++ toString generations).toList =
        Text.joinWords ["предок,".toList, "поколение".toList, Nat.toDigits 10 generations] := by simp [Text.joinWords]
    rw [readBack_eq_read? spelled (by simp) (by simp [free]), read?, if_pos rfl, decimalValue_toDigits]
    rfl
  · have spelled : ("потомок, поколение " ++ toString generations).toList =
        Text.joinWords ["потомок,".toList, "поколение".toList, Nat.toDigits 10 generations] := by simp [Text.joinWords]
    rw [readBack_eq_read? spelled (by simp) (by simp [free]), read?, if_pos rfl, decimalValue_toDigits]
    rfl

/-- An aunt's family of a high degree is read back. -/
theorem readBack_aside (degree : Nat) :
    readBack ("боковой предок, удалённость " ++ toString degree) = some (.auntUncle degree true, none) ∧
      readBack ("боковой потомок, удалённость " ++ toString degree) = some (.auntUncle degree false, none) := by
  have free := blank_not_mem_toDigits degree
  have noOrdinal : ordinal? "боковой".toList = none := by decide +kernel
  constructor
  · have spelled : ("боковой предок, удалённость " ++ toString degree).toList = Text.joinWords
        ["боковой".toList, "предок,".toList, "удалённость".toList, Nat.toDigits 10 degree] := by simp [Text.joinWords]
    rw [readBack_eq_read? spelled (by simp) (by simp [free])]
    simp only [read?, noOrdinal, decimalValue_toDigits]
    rfl
  · have spelled : ("боковой потомок, удалённость " ++ toString degree).toList = Text.joinWords
        ["боковой".toList, "потомок,".toList, "удалённость".toList, Nat.toDigits 10 degree] := by simp [Text.joinWords]
    rw [readBack_eq_read? spelled (by simp) (by simp [free])]
    simp only [read?, noOrdinal, decimalValue_toDigits]
    rfl

/-- The word for a cousin without a number of removals is read back. -/
theorem readBack_cousin (degree : Nat) (sex : Sex) {concept : Concept}
    (fits : concept ∈ [.sibling, .auntUncle, .nieceNephew]) :
    readBack (withCousinDegree degree sex (word concept sex)) = some (bondOfCousin degree 1 concept, some sex) := by
  obtain ⟨told, freeWord⟩ := meaning?_word concept sex
  rw [withCousinDegree]
  cases known : ordinalStem? (degree + 1) with
  | some stem =>
    -- The ordinal is one more than the degree.
    have ordinal : bondOfOrdinal (degree + 1) concept = bondOfCousin degree 1 concept := by
      simp only [List.mem_cons, List.not_mem_nil, or_false] at fits
      rcases fits with rfl | rfl | rfl <;> rfl
    rw [← ordinal]
    exact readBack_ordinal known sex concept
  | none =>
    have spelled : (word concept sex ++ " " ++ toString degree ++ "-й степени").toList = Text.joinWords
        [(word concept sex).toList, Nat.toDigits 10 degree ++ ['-', 'й'], "степени".toList] := by
      simp [Text.joinWords]
    -- The word in the middle ends otherwise than that for a generation.
    have ending : Nat.toDigits 10 degree ++ ['-', 'й'] ≠ "поколение".toList := fun same =>
      absurd (congrArg List.getLast? same) (by simp)
    rw [readBack_eq_read? spelled (by simp) (by simp [freeWord, blank_not_mem_toDigits]), read?, if_neg ending,
      if_neg (by decide), if_neg (by decide), told, numberBefore_toDigits, Option.map_some]

/-- The word for a cousin with a number of removals is read back. -/
theorem readBack_removed (degree removal : Nat) (sex : Sex) (concept : Concept) :
    readBack (withCousinDegree degree sex (word concept sex) ++ (", удалённость " ++ toString removal)) =
      some (bondOfCousin degree removal concept, some sex) := by
  have free := blank_not_mem_toDigits removal
  obtain ⟨toldWord, freeWord⟩ := meaning?_word concept sex
  rw [withCousinDegree]
  cases known : ordinalStem? (degree + 1) with
  | some stem =>
    obtain ⟨told, freeStem⟩ := ordinal?_inflect known sex
    have spelled : (inflect stem sex ++ " " ++ word concept sex ++ (", удалённость " ++ toString removal)).toList =
        Text.joinWords [(inflect stem sex).toList, (word concept sex).toList ++ [','], "удалённость".toList,
          Nat.toDigits 10 removal] := by simp [Text.joinWords]
    have read := readBack_eq_read? spelled (by simp) (by simp [free, freeWord, freeStem])
    simpa only [read?, told, List.dropLast_concat, toldWord, decimalValue_toDigits, Option.map_some,
      Nat.add_sub_cancel] using read
  | none =>
    have spelled : (word concept sex ++ " " ++ toString degree ++ "-й степени" ++
        (", удалённость " ++ toString removal)).toList = Text.joinWords [(word concept sex).toList,
          Nat.toDigits 10 degree ++ ['-', 'й'], "степени,".toList, "удалённость".toList, Nat.toDigits 10 removal] := by
      simp [Text.joinWords]
    have read := readBack_eq_read? spelled (by simp) (by simp [free, freeWord, blank_not_mem_toDigits])
    simpa only [read?, toldWord, numberBefore_toDigits, decimalValue_toDigits, Option.map_some] using read

/-- The words for a direct line are read back. -/
theorem readBack_directTerms {generations : Nat} (positive : 1 ≤ generations) (ancestor descendant : Sex) :
    readBack (directTerms generations ancestor descendant).1 =
        some (.directLine generations true, if generations ≤ 3 then some ancestor else none) ∧
      readBack (directTerms generations ancestor descendant).2 =
        some (.directLine generations false, if generations ≤ 3 then some descendant else none) := by
  -- Three generations have words of their own.
  match generations, positive with
  | 1, _ => exact ⟨readBack_word .parent ancestor, readBack_word .child descendant⟩
  | 2, _ => exact ⟨readBack_word .grandparent ancestor, readBack_word .grandchild descendant⟩
  | 3, _ => exact ⟨readBack_word .greatGrandparent ancestor, readBack_word .greatGrandchild descendant⟩
  | generations + 4, _ =>
    have many : ¬generations + 4 ≤ 3 := by omega
    rw [if_neg many, if_neg many]
    exact readBack_distant (generations + 4)

/-- The words for an aunt's family are read back. -/
theorem readBack_auntFamilyTerms {degree : Nat} (positive : 1 ≤ degree) (senior junior : Sex) :
    readBack (auntFamilyTerms degree senior junior).1 =
        some (.auntUncle degree true, if degree ≤ 3 then some senior else none) ∧
      readBack (auntFamilyTerms degree senior junior).2 =
        some (.auntUncle degree false, if degree ≤ 3 then some junior else none) := by
  -- One degree has words of its own, and two have those of a direct line behind an ordinal.
  match degree, positive with
  | 1, _ => exact ⟨readBack_word .auntUncle senior, readBack_word .nieceNephew junior⟩
  | 2, _ =>
    have known : ordinalStem? 2 = some "двоюродн" := rfl
    exact ⟨readBack_ordinal known senior .grandparent, readBack_ordinal known junior .grandchild⟩
  | 3, _ =>
    have known : ordinalStem? 3 = some "троюродн" := rfl
    exact ⟨readBack_ordinal known senior .grandparent, readBack_ordinal known junior .grandchild⟩
  | degree + 4, _ =>
    have many : ¬degree + 4 ≤ 3 := by omega
    rw [if_neg many, if_neg many]
    exact readBack_aside (degree + 4)

/-- The words for two cousins are read back. Those of one generation cannot be told apart. -/
theorem readBack_cousinTerms (degree removal : Nat) (near far : Sex) :
    readBack (cousinTerms degree removal near far).1 = some (.cousins degree removal true, some near) ∧
      readBack (cousinTerms degree removal near far).2 = some (.cousins degree removal (removal = 0), some far) := by
  -- Up to one removal there is no ending.
  have noEnding : ∀ label : String, label ++ "" = label := fun _ => String.append_empty
  match removal with
  | 0 =>
    rw [cousinTerms, cousinTerms.both, noEnding, noEnding]
    exact ⟨readBack_cousin degree near (by decide), readBack_cousin degree far (by decide)⟩
  | 1 =>
    rw [cousinTerms, cousinTerms.both, noEnding, noEnding]
    exact ⟨readBack_cousin degree near (by decide), readBack_cousin degree far (by decide)⟩
  | removal + 2 =>
    exact ⟨readBack_removed degree (removal + 2) near .auntUncle,
      readBack_removed degree (removal + 2) far .nieceNephew⟩

end Lexicon

namespace Bond

variable {bond bond' : Bond}

/-- What the first person is called tells the bond and, if the words have a gender, that person's sex. -/
theorem Occurs.readBack_words (occurs : bond.Occurs) (a b : Sex) :
    Lexicon.readBack (bond.words a b).1 = some (bond, if bond.ShowsSex then some a else none) := by
  cases bond with
  | notFound => exact Lexicon.readBack_unrelated.1
  | samePerson => exact Lexicon.readBack_unrelated.2
  | directLine _ up =>
    cases up
    · exact (Lexicon.readBack_directTerms occurs b a).2
    · exact (Lexicon.readBack_directTerms occurs a b).1
  | siblings => exact Lexicon.readBack_word .sibling a
  | auntUncle _ senior =>
    cases senior
    · exact (Lexicon.readBack_auntFamilyTerms occurs b a).2
    · exact (Lexicon.readBack_auntFamilyTerms occurs a b).1
  | cousins degree removal nearer =>
    cases nearer with
    | false =>
      -- The farther one is told from the nearer one, as there is a removal.
      have removed : removal ≠ 0 := fun none => Bool.false_ne_true (occurs.2 none)
      have read := (Lexicon.readBack_cousinTerms degree removal b a).2
      rwa [decide_eq_false removed] at read
    | true => exact (Lexicon.readBack_cousinTerms degree removal a b).1

example : Lexicon.readBack "троюродный дядя, удалённость 3" = some (.cousins 2 3 true, some .male) := by
  decide +kernel

/-- The same word for the first person stands for the same bond and, if it has a gender, the same sex. -/
theorem Occurs.of_first_eq (occurs : bond.Occurs) (occurs' : bond'.Occurs) {a b a' b' : Sex}
    (same : (bond.words a b).1 = (bond'.words a' b').1) : bond = bond' ∧ (bond.ShowsSex → a = a') := by
  -- The label is read back from both bonds.
  have read := occurs.readBack_words a b
  rw [same, occurs'.readBack_words a' b', Option.some.injEq, Prod.mk.injEq] at read
  obtain ⟨rfl, sexes⟩ := read
  refine ⟨rfl, fun shows => ?_⟩
  rw [if_pos shows, if_pos shows, Option.some.injEq] at sexes
  exact sexes.symm

/-- So it is with the word for the second person. -/
theorem Occurs.of_second_eq (occurs : bond.Occurs) (occurs' : bond'.Occurs) {a b a' b' : Sex}
    (same : (bond.words a b).2 = (bond'.words a' b').2) : bond = bond' ∧ (bond.ShowsSex → b = b') := by
  -- From the other side that is the first person.
  have swapped : (bond.mirror.words b a).1 = (bond'.mirror.words b' a').1 := by
    rw [occurs.words_mirror, occurs'.words_mirror]
    exact same
  obtain ⟨mirrors, sexes⟩ := occurs.mirror.of_first_eq occurs'.mirror swapped
  refine ⟨?_, fun shows => sexes ((showsSex_mirror bond).mpr shows)⟩
  rw [← occurs.mirror_mirror, mirrors, occurs'.mirror_mirror]

end Bond

end Kindred
