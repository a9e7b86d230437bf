import Kindred.Proofs.Classify.Snapshot

/-! The kinship of two people, defined by distances along kept links, is what a classification tells. -/

namespace Kindred

/-- The relation of two people who stand that many steps below their nearest common ancestor. -/
def collateralRelation (k l : Nat) (common : PersonId) : Relation :=
  if k = 1 ∧ l = 1 then .siblings common
  else if k = 1 ∨ l = 1 then .auntUncle (max k l - 1) (k = 1) common
  else .cousins (min k l - 1) (max k l - min k l) common

/-- It names the common ancestor, as no other relation does. -/
theorem commonAncestor?_collateralRelation (k l : Nat) (common : PersonId) :
    (collateralRelation k l common).commonAncestor? = some common := by
  rw [collateralRelation]
  split
  · rfl
  · split <;> rfl

/-- The words for them. The lexicon names the senior, or the nearer of two cousins, first. -/
def collateralWords (k l : Nat) (a b : Sex) : String × String :=
  if k = 1 ∧ l = 1 then (Lexicon.siblingTerm a, Lexicon.siblingTerm b)
  else if k = 1 then Lexicon.auntFamilyTerms (max k l - 1) a b
  else if l = 1 then (Lexicon.auntFamilyTerms (max k l - 1) b a).swap
  else if k ≤ l then Lexicon.cousinTerms (min k l - 1) (max k l - min k l) a b
  else (Lexicon.cousinTerms (min k l - 1) (max k l - min k l) b a).swap

/-- The relation of two people and the word for each of them, told from the records and the distances
along kept links. -/
inductive Kinship (people : List Person) (edges : List ParentEdge) (a b : PersonId) :
    Relation → String × String → Prop
  /-- Nobody is known to be related to a stranger. -/
  | stranger (unknown : a ∉ people.map Person.id ∨ b ∉ people.map Person.id) :
    Kinship people edges a b .notFound (Lexicon.notFound, Lexicon.notFound)
  | same (known : a ∈ people.map Person.id) (equal : a = b) :
    Kinship people edges a b .samePerson (Lexicon.samePerson, Lexicon.samePerson)
  /-- The first is an ancestor of the second. -/
  | ancestor {personA personB through : Person} {next : PersonId} {distance : Nat}
    (recordA : LastRecord people a personA) (recordB : LastRecord people b personB)
    (above : IsAncestorAt (KeptLink people edges) b a distance)
    (way : IsNextUp (KeptLink people edges) b a distance next)
    (recordNext : LastRecord people next through) :
    Kinship people edges a b (.directLine distance true (Line.throughParent through.sex))
      (Lexicon.directTerms distance personA.sex personB.sex)
  /-- The second is an ancestor of the first, who is none of the second. -/
  | descendant {personA personB through : Person} {next : PersonId} {distance : Nat}
    (recordA : LastRecord people a personA) (recordB : LastRecord people b personB)
    (notAbove : ∀ steps, ¬IsAncestorAt (KeptLink people edges) b a steps)
    (below : IsAncestorAt (KeptLink people edges) a b distance)
    (way : IsNextUp (KeptLink people edges) a b distance next)
    (recordNext : LastRecord people next through) :
    Kinship people edges a b (.directLine distance false (Line.throughParent through.sex))
      (Lexicon.directTerms distance personB.sex personA.sex).swap
  /-- Neither is an ancestor of the other, and they share none. -/
  | unrelated (knownA : a ∈ people.map Person.id) (knownB : b ∈ people.map Person.id)
    (differ : a ≠ b) (notAbove : ∀ steps, ¬IsAncestorAt (KeptLink people edges) b a steps)
    (notBelow : ∀ steps, ¬IsAncestorAt (KeptLink people edges) a b steps)
    (apart : ∀ common k l, IsAncestorAt (KeptLink people edges) a common k →
      ¬IsAncestorAt (KeptLink people edges) b common l) :
    Kinship people edges a b .notFound (Lexicon.notFound, Lexicon.notFound)
  /-- Neither is an ancestor of the other, and the nearest shared one decides. -/
  | collateral {personA personB : Person} {common : PersonId} {k l : Nat}
    (recordA : LastRecord people a personA) (recordB : LastRecord people b personB) (differ : a ≠ b)
    (notAbove : ∀ steps, ¬IsAncestorAt (KeptLink people edges) b a steps)
    (notBelow : ∀ steps, ¬IsAncestorAt (KeptLink people edges) a b steps)
    (nearest : IsNearestCommon (KeptLink people edges) a b common k l) :
    Kinship people edges a b (collateralRelation k l common)
      (collateralWords k l personA.sex personB.sex)

/-- What is not kept in its order is exchanged. -/
theorem Snapshot.swapUnless_false {α : Type} (pair : α × α) : swapUnless false pair = pair.swap :=
  rfl

/-- The terms of collateral relatives are those of the two distances. -/
theorem collateralTerms_eq (a b : Sex) (common : PersonId) {k l : Nat} (above : 1 ≤ k)
    (other : 1 ≤ l) :
    Snapshot.collateralTerms a b ⟨common, k, l⟩ =
      (collateralWords k l a b, collateralRelation k l common) := by
  -- The larger and the smaller distance are named in each of the five cases.
  simp only [Snapshot.collateralTerms, collateralWords, collateralRelation,
    Snapshot.swapUnless_false]
  by_cases first : k = 1
  · by_cases second : l = 1
    · simp [first, second]
    · have larger : max 1 l = l := by omega
      simp [first, second, larger]
  · by_cases second : l = 1
    · have larger : max k 1 = k := by omega
      simp [first, second, larger]
    · by_cases ordered : k ≤ l
      · have larger : max k l = l := by omega
        have smaller : min k l = k := by omega
        rw [larger, smaller]
        simp [first, second, ordered]
      · have larger : max k l = k := by omega
        have smaller : min k l = l := by omega
        rw [larger, smaller]
        simp [first, second, ordered]

variable {people : List Person} {edges : List ParentEdge} {a b : PersonId}

namespace Kinship

/-- A kinship is what the classification tells, under all options. -/
theorem classify_eq {relation : Relation} {words : String × String}
    (kinship : Kinship people edges a b relation words) (options : ClassifyOptions) :
    (classify options people edges a b).relation = relation ∧
      ((classify options people edges a b).roleOfA, (classify options people edges a b).roleOfB) =
        words := by
  -- Each kind of kinship is one branch of the classification.
  cases kinship with
  | stranger unknown =>
    rw [classify_of_unknown unknown]
    exact ⟨rfl, rfl⟩
  | same known equal =>
    subst equal
    rw [classify_self known]
    exact ⟨rfl, rfl⟩
  | ancestor recordA recordB above way recordNext =>
    rw [classify_of_ancestor recordA recordB above]
    obtain ⟨namedA, _⟩ := recordA
    obtain ⟨namedB, _⟩ := recordB
    have line := lineTowards_ofRecords above way recordNext
    constructor
    · simp only [Snapshot.directLine, namedA, namedB, line]
    · rfl
  | descendant recordA recordB notAbove below way recordNext =>
    rw [classify_of_descendant recordA recordB notAbove below]
    obtain ⟨namedA, _⟩ := recordA
    obtain ⟨namedB, _⟩ := recordB
    have line := lineTowards_ofRecords below way recordNext
    constructor
    · simp only [Snapshot.directLine, namedA, namedB, line]
    · rfl
  | unrelated knownA knownB differ notAbove notBelow apart =>
    rw [classify_of_unrelated knownA knownB differ notAbove notBelow apart]
    exact ⟨rfl, rfl⟩
  | collateral recordA recordB differ notAbove notBelow nearest =>
    rw [classify_of_common recordA recordB differ notAbove notBelow nearest]
    obtain ⟨_, rfl, _⟩ := nearest.aboveA.exists_succ
    obtain ⟨_, rfl, _⟩ := nearest.aboveB.exists_succ
    simp [Snapshot.collateral, collateralTerms_eq]

end Kinship

/-- Of two people who share an ancestor one shared ancestor is the nearest. -/
theorem exists_isNearestCommon {common : PersonId} {k l : Nat}
    (aboveA : IsAncestorAt (KeptLink people edges) a common k)
    (aboveB : IsAncestorAt (KeptLink people edges) b common l) :
    ∃ nearest k' l', IsNearestCommon (KeptLink people edges) a b nearest k' l' := by
  -- The shared ancestor is a candidate, so something is resolved.
  cases resolved : CommonAncestor.resolve? ((KinTable.ofRecords people edges).ancestorDistances a)
      ((KinTable.ofRecords people edges).ancestorDistances b) with
  | none =>
    have nobody := (CommonAncestor.resolve?_eq_none_iff _ _).mp resolved ⟨common, k, l⟩
    exact absurd ((mem_candidates_ofRecords a b ⟨common, k, l⟩).mpr ⟨aboveA, aboveB⟩) nobody
  | some nearest =>
    exact ⟨nearest.id, nearest.distanceA, nearest.distanceB,
      (resolve?_ofRecords a b nearest).mp resolved⟩

/-- The next person up is one of the records. -/
theorem IsNextUp.exists_record {low top next : PersonId} {distance : Nat}
    (way : IsNextUp (KeptLink people edges) low top distance next) :
    ∃ person, LastRecord people next person :=
  exists_lastRecord way.isParent.parentKnown

/-- The questions that decide what two people are to each other, in the order in which they are asked. -/
inductive Standing (people : List Person) (edges : List ParentEdge) (a b : PersonId) : Prop
  | stranger (unknown : a ∉ people.map Person.id ∨ b ∉ people.map Person.id)
  | same (known : a ∈ people.map Person.id) (equal : a = b)
  | above {personA personB : Person} {distance : Nat} (recordA : LastRecord people a personA)
    (recordB : LastRecord people b personB) (differ : a ≠ b)
    (above : IsAncestorAt (KeptLink people edges) b a distance)
  | below {personA personB : Person} {distance : Nat} (recordA : LastRecord people a personA)
    (recordB : LastRecord people b personB) (differ : a ≠ b)
    (notAbove : ∀ steps, ¬IsAncestorAt (KeptLink people edges) b a steps)
    (below : IsAncestorAt (KeptLink people edges) a b distance)
  | beside {personA personB : Person} {common : PersonId} {k l : Nat}
    (recordA : LastRecord people a personA) (recordB : LastRecord people b personB) (differ : a ≠ b)
    (notAbove : ∀ steps, ¬IsAncestorAt (KeptLink people edges) b a steps)
    (notBelow : ∀ steps, ¬IsAncestorAt (KeptLink people edges) a b steps)
    (nearest : IsNearestCommon (KeptLink people edges) a b common k l)
  | apart (knownA : a ∈ people.map Person.id) (knownB : b ∈ people.map Person.id) (differ : a ≠ b)
    (notAbove : ∀ steps, ¬IsAncestorAt (KeptLink people edges) b a steps)
    (notBelow : ∀ steps, ¬IsAncestorAt (KeptLink people edges) a b steps)
    (nobody : ∀ common k l, IsAncestorAt (KeptLink people edges) a common k →
      ¬IsAncestorAt (KeptLink people edges) b common l)

/-- One of the questions is answered by yes, or the two people are not related. -/
theorem standing (people : List Person) (edges : List ParentEdge) (a b : PersonId) :
    Standing people edges a b := by
  by_cases knownA : a ∈ people.map Person.id
  case neg => exact .stranger (Or.inl knownA)
  by_cases knownB : b ∈ people.map Person.id
  case neg => exact .stranger (Or.inr knownB)
  by_cases equal : a = b
  · exact .same knownA equal
  -- Both are recorded from here on, and ancestry is asked for before anything else.
  obtain ⟨personA, recordA⟩ := exists_lastRecord knownA
  obtain ⟨personB, recordB⟩ := exists_lastRecord knownB
  by_cases isAbove : ∃ steps, IsAncestorAt (KeptLink people edges) b a steps
  · obtain ⟨steps, above⟩ := isAbove
    exact .above recordA recordB equal above
  have notAbove := not_exists.mp isAbove
  by_cases isBelow : ∃ steps, IsAncestorAt (KeptLink people edges) a b steps
  · obtain ⟨steps, below⟩ := isBelow
    exact .below recordA recordB equal notAbove below
  have notBelow := not_exists.mp isBelow
  -- A shared ancestor decides, and there is a nearest one if there is any.
  by_cases shared : ∃ common k l, IsAncestorAt (KeptLink people edges) a common k ∧
      IsAncestorAt (KeptLink people edges) b common l
  · obtain ⟨_, _, _, aboveA, aboveB⟩ := shared
    obtain ⟨common, k, l, nearest⟩ := exists_isNearestCommon aboveA aboveB
    exact .beside recordA recordB equal notAbove notBelow nearest
  · refine .apart knownA knownB equal notAbove notBelow fun common k l one other => ?_
    exact shared ⟨common, k, l, one, other⟩

/-- Any two identifiers have a kinship. -/
theorem exists_kinship (people : List Person) (edges : List ParentEdge) (a b : PersonId) :
    ∃ relation words, Kinship people edges a b relation words := by
  -- On a direct line the next person up gives the side of the family.
  cases standing people edges a b with
  | stranger unknown => exact ⟨_, _, .stranger unknown⟩
  | same known equal => exact ⟨_, _, .same known equal⟩
  | above recordA recordB differ above =>
    obtain ⟨next, way⟩ := exists_isNextUp above
    obtain ⟨through, recordNext⟩ := way.exists_record
    exact ⟨_, _, .ancestor recordA recordB above way recordNext⟩
  | below recordA recordB differ notAbove below =>
    obtain ⟨next, way⟩ := exists_isNextUp below
    obtain ⟨through, recordNext⟩ := way.exists_record
    exact ⟨_, _, .descendant recordA recordB notAbove below way recordNext⟩
  | beside recordA recordB differ notAbove notBelow nearest =>
    exact ⟨_, _, .collateral recordA recordB differ notAbove notBelow nearest⟩
  | apart knownA knownB differ notAbove notBelow nobody =>
    exact ⟨_, _, .unrelated knownA knownB differ notAbove notBelow nobody⟩

/-- For all records and options, a classification tells exactly the kinship of the two people. -/
theorem classify_iff_kinship (options : ClassifyOptions) (people : List Person)
    (edges : List ParentEdge) (a b : PersonId) (relation : Relation) (words : String × String) :
    ((classify options people edges a b).relation = relation ∧
      ((classify options people edges a b).roleOfA, (classify options people edges a b).roleOfB) =
        words) ↔ Kinship people edges a b relation words := by
  -- The classification agrees with every kinship, and there is one.
  constructor
  · rintro ⟨rfl, rfl⟩
    obtain ⟨relation, words, kinship⟩ := exists_kinship people edges a b
    obtain ⟨sameRelation, sameWords⟩ := kinship.classify_eq options
    rw [sameRelation, sameWords]
    exact kinship
  · exact fun kinship => kinship.classify_eq options

end Kindred
