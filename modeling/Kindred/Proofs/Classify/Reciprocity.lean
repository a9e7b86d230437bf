import Kindred.Proofs.Classify.Kinship
import Kindred.Proofs.Pedigree.Cycles

/-! Two classifications of one pair, taken from either side, mirror each other outside of cycles. -/

namespace Kindred

/-- The relation seen from the other of the two people. -/
def Relation.mirror : Relation → Relation
  | .directLine generations aIsAncestor line => .directLine generations (!aIsAncestor) line
  | .auntUncle degree aIsSenior common => .auntUncle degree (!aIsSenior) common
  | .notFound => .notFound
  | .samePerson => .samePerson
  | .siblings common => .siblings common
  | .cousins degree removal common => .cousins degree removal common

/-- The relation is that of an ancestor and a descendant. -/
def Relation.IsDirectLine (relation : Relation) : Prop :=
  ∃ generations aIsAncestor line, relation = .directLine generations aIsAncestor line

/-- Two classifications tell the same from the two sides of a pair. -/
structure Mirrors (first second : Classification) : Prop where
  roleOfA : second.roleOfA = first.roleOfB
  roleOfB : second.roleOfB = first.roleOfA
  relation : second.relation = first.relation.mirror
  evidence : second.evidence.Perm first.evidence
  directEvidence : first.relation.IsDirectLine → second.evidence = first.evidence

/-- Two people of whom nothing is known to each other mirror each other. -/
theorem mirrors_notFound : Mirrors .notFound .notFound :=
  ⟨rfl, rfl, rfl, List.Perm.refl _, fun _ => rfl⟩

/-- A person and the same person mirror each other. -/
theorem mirrors_samePerson : Mirrors .samePerson .samePerson :=
  ⟨rfl, rfl, rfl, List.Perm.refl _, fun _ => rfl⟩

namespace Snapshot

variable (snapshot : Snapshot) (options : ClassifyOptions)

/-- A direct line read from below mirrors the one read from above, and the evidence is the same. -/
theorem mirrors_directLine (ancestor descendant : Person) (distance : Nat) (aIsAncestor : Bool) :
    Mirrors (snapshot.directLine options ancestor descendant distance aIsAncestor)
      (snapshot.directLine options ancestor descendant distance (!aIsAncestor)) := by
  -- Only the order of the two words depends on the side.
  cases aIsAncestor <;> exact ⟨rfl, rfl, rfl, List.Perm.refl _, fun _ => rfl⟩

end Snapshot

/-- With the distances exchanged, the relation of collateral relatives is mirrored. -/
theorem collateralRelation_swap (k l : Nat) (common : PersonId) :
    collateralRelation l k common = (collateralRelation k l common).mirror := by
  -- Exactly one of two aunt-and-niece relatives stands one step below the common ancestor.
  simp only [collateralRelation, Nat.max_comm l k, Nat.min_comm l k, and_comm (a := l = 1),
    or_comm (a := l = 1)]
  by_cases first : k = 1
  · by_cases second : l = 1
    · simp [first, second, Relation.mirror]
    · simp [first, second, Relation.mirror]
  · by_cases second : l = 1
    · simp [first, second, Relation.mirror]
    · simp [first, second, Relation.mirror]

/-- Cousins of the same generation have the same kind of word, whoever is named first. -/
theorem cousinTerms_zero_swap (degree : Nat) (a b : Sex) :
    Lexicon.cousinTerms degree 0 b a = (Lexicon.cousinTerms degree 0 a b).swap :=
  rfl

/-- With the distances and the sexes exchanged, the words are exchanged. -/
theorem collateralWords_swap (k l : Nat) (a b : Sex) :
    collateralWords l k b a = (collateralWords k l a b).swap := by
  -- Who is named first depends on the distances alone, except between two cousins of one generation.
  simp only [collateralWords, Nat.max_comm l k, Nat.min_comm l k, and_comm (a := l = 1)]
  by_cases first : k = 1
  · by_cases second : l = 1
    · simp [first, second]
    · simp [first, second]
  · by_cases second : l = 1
    · simp [first, second]
    · rcases Nat.lt_trichotomy k l with less | same | more
      · have ordered : k ≤ l := Nat.le_of_lt less
        simp [first, second, ordered, Nat.not_le.mpr less]
      · subst same
        simp [first, cousinTerms_zero_swap (k - 1) a b]
      · have ordered : l ≤ k := Nat.le_of_lt more
        simp [first, second, ordered, Nat.not_le.mpr more]

/-- The nearest common ancestor is the same from both sides, with the distances exchanged. -/
theorem IsNearestCommon.swap {parent : PersonId → PersonId → Prop} {a b common : PersonId}
    {k l : Nat} (nearest : IsNearestCommon parent a b common k l) :
    IsNearestCommon parent b a common l k := by
  -- The sum and the larger one of two distances do not depend on their order.
  refine ⟨nearest.aboveB, nearest.aboveA, fun other k' l' otherB otherA => ?_⟩
  simpa only [Nat.add_comm l k, Nat.add_comm k' l', Nat.max_comm l k, Nat.max_comm k' l'] using
    nearest.nearest other l' k' otherA otherB

/-- The evidence of the two branches stands in the order of the two people. -/
theorem Snapshot.mirrors_collateral (snapshot : Snapshot) (options : ClassifyOptions)
    (a b : Person) (common : PersonId) {k l : Nat} (above : 1 ≤ k) (other : 1 ≤ l) :
    Mirrors (snapshot.collateral options a b ⟨common, k, l⟩)
      (snapshot.collateral options b a ⟨common, l, k⟩) := by
  -- The notes on the two branches change places, everything around them stays.
  have noLine : ¬(collateralRelation k l common).IsDirectLine := by
    intro direct
    obtain ⟨generations, aIsAncestor, line, same⟩ := direct
    have named := commonAncestor?_collateralRelation k l common
    simp [same, Relation.commonAncestor?] at named
  have degrees : ∀ relation : Relation, degreeEvidence relation.mirror = degreeEvidence relation := by
    intro relation
    cases relation <;> rfl
  simp only [collateral, collateralTerms_eq a.sex b.sex common above other,
    collateralTerms_eq b.sex a.sex common other above]
  refine ⟨?_, ?_, collateralRelation_swap k l common, ?_, fun direct => absurd direct noLine⟩
  · rw [collateralWords_swap]
    rfl
  · rw [collateralWords_swap]
    rfl
  · simp only [collateralRelation_swap k l, degrees, List.append_assoc]
    refine List.Perm.append_left _ ?_
    rw [← List.append_assoc, ← List.append_assoc]
    exact List.Perm.append_right _ List.perm_append_comm

/-- The ways in which the words for ancestors begin. -/
def Lexicon.ancestorOpenings : List (List Char) :=
  ["отец", "мать", "роди", "деду", "бабу", "прад", "праб", "пред"].map String.toList

/-- The ways in which the words for descendants begin. -/
def Lexicon.descendantOpenings : List (List Char) :=
  ["сын", "дочь", "ребё", "внук", "внуч", "прав", "пото"].map String.toList

/-- The word for an ancestor begins in one of the ways for ancestors. -/
theorem Lexicon.opening_ancestor (generations : Nat) (ancestor descendant : Sex) :
    (directTerms generations ancestor descendant).1.toList.take 4 ∈ ancestorOpenings := by
  -- Beyond the third generation only the number differs, and it stands at the end.
  have numbered : ∀ n : Nat, ("предок, поколение " ++ toString n).toList.take 4 ∈ ancestorOpenings := by
    simp [ancestorOpenings]
  rcases generations with _ | _ | _ | _ | generations
  · exact numbered 0
  · change (word .parent ancestor).toList.take 4 ∈ ancestorOpenings
    cases ancestor <;> decide
  · change (word .grandparent ancestor).toList.take 4 ∈ ancestorOpenings
    cases ancestor <;> decide
  · change (word .greatGrandparent ancestor).toList.take 4 ∈ ancestorOpenings
    cases ancestor <;> decide
  · exact numbered (generations + 4)

/-- The word for a descendant begins in one of the ways for descendants. -/
theorem Lexicon.opening_descendant (generations : Nat) (ancestor descendant : Sex) :
    (directTerms generations ancestor descendant).2.toList.take 4 ∈ descendantOpenings := by
  -- Beyond the third generation only the number differs, and it stands at the end.
  have numbered : ∀ n : Nat, ("потомок, поколение " ++ toString n).toList.take 4 ∈ descendantOpenings := by
    simp [descendantOpenings]
  rcases generations with _ | _ | _ | _ | generations
  · exact numbered 0
  · change (word .child descendant).toList.take 4 ∈ descendantOpenings
    cases descendant <;> decide
  · change (word .grandchild descendant).toList.take 4 ∈ descendantOpenings
    cases descendant <;> decide
  · change (word .greatGrandchild descendant).toList.take 4 ∈ descendantOpenings
    cases descendant <;> decide
  · exact numbered (generations + 4)

/-- No word for an ancestor is a word for a descendant, however far apart the two are. -/
theorem Lexicon.ancestor_ne_descendant (m n : Nat) (s t u v : Sex) :
    (directTerms m s t).1 ≠ (directTerms n u v).2 := by
  -- No opening is on both lists.
  intro same
  have apart : ∀ opening ∈ ancestorOpenings, opening ∉ descendantOpenings := by decide
  refine apart _ (opening_ancestor m s t) ?_
  rw [same]
  exact opening_descendant n u v

variable {people : List Person} {edges : List ParentEdge} {a b : PersonId}

/-- Two people who are no mutual ancestors are classified the same from both sides. -/
theorem mirrors_classify (options : ClassifyOptions)
    (apart : ¬MutualAncestors (KeptLink people edges) a b) :
    Mirrors (classify options people edges a b) (classify options people edges b a) := by
  cases standing people edges a b with
  | stranger unknown =>
    rw [classify_of_unknown unknown, classify_of_unknown unknown.symm]
    exact mirrors_notFound
  | same known equal =>
    subst equal
    rw [classify_self known]
    exact mirrors_samePerson
  | above recordA recordB differ above =>
    -- The second person is not above the first one, too, so the other call finds the line from below.
    have notBelow : ∀ steps, ¬IsAncestorAt (KeptLink people edges) a b steps := by
      intro steps below
      have up := (exists_isAncestorAt_iff.mp ⟨steps, below⟩).2
      have down := (exists_isAncestorAt_iff.mp ⟨_, above⟩).2
      exact apart ⟨differ, up, down⟩
    rw [classify_of_ancestor recordA recordB above,
      classify_of_descendant recordB recordA notBelow above]
    exact Snapshot.mirrors_directLine _ options _ _ _ true
  | below recordA recordB differ notAbove below =>
    rw [classify_of_descendant recordA recordB notAbove below,
      classify_of_ancestor recordB recordA below]
    exact Snapshot.mirrors_directLine _ options _ _ _ false
  | beside recordA recordB differ notAbove notBelow nearest =>
    -- Both calls resolve the same common ancestor.
    rw [classify_of_common recordA recordB differ notAbove notBelow nearest,
      classify_of_common recordB recordA differ.symm notBelow notAbove nearest.swap]
    obtain ⟨_, rfl, _⟩ := nearest.aboveA.exists_succ
    obtain ⟨_, rfl, _⟩ := nearest.aboveB.exists_succ
    exact Snapshot.mirrors_collateral _ options _ _ _ (Nat.le_add_left 1 _) (Nat.le_add_left 1 _)
  | apart knownA knownB differ notAbove notBelow nobody =>
    rw [classify_of_unrelated knownA knownB differ notAbove notBelow nobody,
      classify_of_unrelated knownB knownA differ.symm notBelow notAbove
        fun common k l one other => nobody common l k other one]
    exact mirrors_notFound

/-- Of mutual ancestors each is classified as an ancestor of the other. -/
theorem classify_of_mutualAncestors (options : ClassifyOptions)
    (both : MutualAncestors (KeptLink people edges) a b) :
    ∃ personA personB distance, classify options people edges a b =
      (Snapshot.ofRecords people edges).directLine options personA personB distance true := by
  -- Ancestors are looked for above the second person first.
  obtain ⟨_, above, _⟩ := both.first_step
  obtain ⟨_, below, _⟩ := both.symm.first_step
  obtain ⟨personA, recordA⟩ := exists_lastRecord above.childKnown
  obtain ⟨personB, recordB⟩ := exists_lastRecord below.childKnown
  obtain ⟨distance, far⟩ := exists_isAncestorAt_iff.mpr ⟨both.differ, both.down⟩
  exact ⟨personA, personB, distance, classify_of_ancestor recordA recordB far⟩

/-- Classifications from the two sides of a pair mirror each other exactly outside of the cycles: of two
people of one cycle each is called an ancestor of the other, and the words never fit. -/
theorem classify_reciprocity (options : ClassifyOptions) (people : List Person)
    (edges : List ParentEdge) (a b : PersonId) :
    (¬(Pedigree.ofRecords people edges).InOneCycle a b →
      Mirrors (classify options people edges a b) (classify options people edges b a)) ∧
    ((Pedigree.ofRecords people edges).isAcyclic →
      Mirrors (classify options people edges a b) (classify options people edges b a)) ∧
    ((Pedigree.ofRecords people edges).InOneCycle a b →
      (∃ generations line,
        (classify options people edges a b).relation = .directLine generations true line) ∧
      (∃ generations line,
        (classify options people edges b a).relation = .directLine generations true line) ∧
      (classify options people edges a b).roleOfA ≠ (classify options people edges b a).roleOfB ∧
      (classify options people edges a b).roleOfB ≠ (classify options people edges b a).roleOfA) := by
  rw [Pedigree.inOneCycle_iff]
  refine ⟨mirrors_classify options, fun acyclic => ?_, fun both => ?_⟩
  · exact mirrors_classify options (Pedigree.not_mutualAncestors_of_isAcyclic acyclic a b)
  · -- Both calls put the word for an ancestor first.
    obtain ⟨_, _, _, forward⟩ := classify_of_mutualAncestors options both
    obtain ⟨_, _, _, backward⟩ := classify_of_mutualAncestors options both.symm
    rw [forward, backward]
    refine ⟨⟨_, _, rfl⟩, ⟨_, _, rfl⟩, ?_, ?_⟩
    · exact Lexicon.ancestor_ne_descendant _ _ _ _ _ _
    · exact (Lexicon.ancestor_ne_descendant _ _ _ _ _ _).symm

/-- Two men recorded as fathers of each other are classified the same from both sides with a child of one of
them, but not with each other. -/
theorem classify_reciprocity_around_cycle :
    let people : List Person := [⟨⟨"a"⟩, "Иван", .male, none⟩, ⟨⟨"b"⟩, "Пётр", .male, none⟩,
      ⟨⟨"c"⟩, "Анна", .female, none⟩]
    let edges : List ParentEdge := [⟨⟨"a"⟩, ⟨"b"⟩⟩, ⟨⟨"b"⟩, ⟨"a"⟩⟩, ⟨⟨"a"⟩, ⟨"c"⟩⟩]
    (Pedigree.ofRecords people edges).InOneCycle ⟨"a"⟩ ⟨"b"⟩ ∧
      (classify {} people edges ⟨"a"⟩ ⟨"b"⟩).roleOfA ≠
        (classify {} people edges ⟨"b"⟩ ⟨"a"⟩).roleOfB ∧
      ¬(Pedigree.ofRecords people edges).InOneCycle ⟨"a"⟩ ⟨"c"⟩ ∧
      Mirrors (classify {} people edges ⟨"a"⟩ ⟨"c"⟩) (classify {} people edges ⟨"c"⟩ ⟨"a"⟩) := by
  intro people edges
  have cyclic : (Pedigree.ofRecords people edges).InOneCycle ⟨"a"⟩ ⟨"b"⟩ := by
    unfold Pedigree.InOneCycle
    decide
  have straight : ¬(Pedigree.ofRecords people edges).InOneCycle ⟨"a"⟩ ⟨"c"⟩ := by
    unfold Pedigree.InOneCycle
    decide
  obtain ⟨_, _, mismatch, _⟩ := (classify_reciprocity {} people edges ⟨"a"⟩ ⟨"b"⟩).2.2 cyclic
  exact ⟨cyclic, mismatch, straight, (classify_reciprocity {} people edges ⟨"a"⟩ ⟨"c"⟩).1 straight⟩

end Kindred
