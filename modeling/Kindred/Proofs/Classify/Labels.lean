import Kindred.Proofs.Classify.Kinship
import Kindred.Proofs.Lexicon

/-! The word for one of two people tells what a classification says of both, but for the names in it. -/

namespace Kindred

/-- What a relation says without anybody's name. Which of two cousins is nearer to the common ancestor is no part of
it. -/
def Relation.bond (aIsNearer : PersonId → Bool) : Relation → Bond
  | .notFound => .notFound
  | .samePerson => .samePerson
  | .directLine generations aIsAncestor _ => .directLine generations aIsAncestor
  | .siblings _ => .siblings
  | .auntUncle degree aIsSenior _ => .auntUncle degree aIsSenior
  | .cousins degree removal common => .cousins degree removal (aIsNearer common)

/-- The first of two people stands no farther below an ancestor than the second. -/
def KinTable.isNearer (table : KinTable) (a b ancestor : PersonId) : Bool :=
  ((table.ancestorDistances a).get? ancestor).getD 0 ≤ ((table.ancestorDistances b).get? ancestor).getD 0

/-- The bond of two people of the records. -/
def bondOf (people : List Person) (edges : List ParentEdge) (a b : PersonId) : Bond :=
  (classify {} people edges a b).relation.bond ((KinTable.ofRecords people edges).isNearer a b)

/-- The sex that is recorded last under an identifier. -/
def sexOf (people : List Person) (id : PersonId) : Sex :=
  ((Snapshot.person? people id).map Person.sex).getD .unknown

/-- The sex under an identifier is that of the last record. -/
theorem LastRecord.sexOf_eq {people : List Person} {id : PersonId} {person : Person}
    (record : LastRecord people id person) : sexOf people id = person.sex := by
  rw [sexOf, (Snapshot.person?_eq_some_iff people id person).mpr record]
  rfl

/-- The bond of two people at some distances below a common ancestor occurs, and its words are theirs. -/
theorem bond_collateralRelation {k l : Nat} (above : 1 ≤ k) (other : 1 ≤ l) (common : PersonId)
    {aIsNearer : PersonId → Bool} (nearer : aIsNearer common = decide (k ≤ l)) :
    ((collateralRelation k l common).bond aIsNearer).Occurs ∧
      ∀ a b, collateralWords k l a b = ((collateralRelation k l common).bond aIsNearer).words a b := by
  -- Siblings, an aunt's family and cousins are told apart as in the relation itself.
  rw [collateralRelation]
  by_cases siblings : k = 1 ∧ l = 1
  · simp [siblings, Relation.bond, Bond.Occurs, collateralWords, Bond.words]
  by_cases aside : k = 1 ∨ l = 1
  · rw [if_neg siblings, if_pos aside]
    -- The two distances are not both one, so the larger one is more.
    refine ⟨show 1 ≤ max k l - 1 by omega, fun a b => ?_⟩
    by_cases first : k = 1
    · have second : l ≠ 1 := fun second => siblings ⟨first, second⟩
      simp [collateralWords, Relation.bond, Bond.words, first, second]
    · have second : l = 1 := aside.resolve_left first
      simp [collateralWords, Relation.bond, Bond.words, first, second]
  · rw [if_neg siblings, if_neg aside, Relation.bond, nearer]
    obtain ⟨first, second⟩ := not_or.mp aside
    refine ⟨⟨by omega, fun none => decide_eq_true (by omega)⟩, fun a b => ?_⟩
    by_cases ordered : k ≤ l
    · simp [collateralWords, Bond.words, first, second, ordered]
    · simp [collateralWords, Bond.words, first, second, ordered]

variable {people : List Person} {edges : List ParentEdge} {a b : PersonId}

/-- Of two people with a common ancestor one is nearer to it by the distances. -/
theorem isNearer_of_isAncestorAt {common : PersonId} {k l : Nat}
    (aboveA : IsAncestorAt (KeptLink people edges) a common k)
    (aboveB : IsAncestorAt (KeptLink people edges) b common l) :
    (KinTable.ofRecords people edges).isNearer a b common = decide (k ≤ l) := by
  rw [KinTable.isNearer, (get?_ancestorDistances_ofRecords a common k).mpr aboveA,
    (get?_ancestorDistances_ofRecords b common l).mpr aboveB]
  rfl

/-- The bond of a kinship occurs, and its words are those of the kinship. -/
theorem Kinship.bond {relation : Relation} {words : String × String}
    (kinship : Kinship people edges a b relation words) :
    (relation.bond ((KinTable.ofRecords people edges).isNearer a b)).Occurs ∧
      words = (relation.bond ((KinTable.ofRecords people edges).isNearer a b)).words (sexOf people a)
        (sexOf people b) := by
  -- A distance to an ancestor is at least one.
  cases kinship with
  | stranger | same | unrelated => exact ⟨trivial, rfl⟩
  | ancestor recordA recordB above =>
    obtain ⟨_, rfl, _⟩ := above.exists_succ
    rw [recordA.sexOf_eq, recordB.sexOf_eq]
    exact ⟨Nat.le_add_left 1 _, rfl⟩
  | descendant recordA recordB _ below =>
    obtain ⟨_, rfl, _⟩ := below.exists_succ
    rw [recordA.sexOf_eq, recordB.sexOf_eq]
    exact ⟨Nat.le_add_left 1 _, rfl⟩
  | collateral recordA recordB _ _ _ nearest =>
    have nearer := isNearer_of_isAncestorAt nearest.aboveA nearest.aboveB
    obtain ⟨_, rfl, _⟩ := nearest.aboveA.exists_succ
    obtain ⟨_, rfl, _⟩ := nearest.aboveB.exists_succ
    rw [recordA.sexOf_eq, recordB.sexOf_eq]
    obtain ⟨occurs, same⟩ := bond_collateralRelation (Nat.le_add_left 1 _) (Nat.le_add_left 1 _) _ nearer
    exact ⟨occurs, same _ _⟩

/-- Under all options the bond of two people is that of their relation; it occurs, and its words are their labels. -/
theorem bond_classify (options : ClassifyOptions) (people : List Person) (edges : List ParentEdge) (a b : PersonId) :
    bondOf people edges a b = (classify options people edges a b).relation.bond
        ((KinTable.ofRecords people edges).isNearer a b) ∧
      (bondOf people edges a b).Occurs ∧
      ((classify options people edges a b).roleOfA, (classify options people edges a b).roleOfB) =
        (bondOf people edges a b).words (sexOf people a) (sexOf people b) := by
  -- The kinship of the two does not depend on the options.
  obtain ⟨relation, words, kinship⟩ := exists_kinship people edges a b
  obtain ⟨told, named⟩ := kinship.classify_eq options
  obtain ⟨occurs, same⟩ := kinship.bond
  rw [bondOf, (kinship.classify_eq {}).1, told, named]
  exact ⟨rfl, occurs, same⟩

/-- Labels never confuse two bonds. Each label alone, the first as well as the second, tells the whole bond and, if the
words of the bond have a gender, the sex of the person who bears it. So no two calls whose bonds differ give the same
label. -/
structure LabelsTellBonds : Prop where
  labelled : ∀ options people edges a b,
    bondOf people edges a b = (classify options people edges a b).relation.bond
        ((KinTable.ofRecords people edges).isNearer a b) ∧
      (bondOf people edges a b).Occurs ∧
      ((classify options people edges a b).roleOfA, (classify options people edges a b).roleOfB) =
        (bondOf people edges a b).words (sexOf people a) (sexOf people b)
  first : ∀ bond bond' : Bond, bond.Occurs → bond'.Occurs → ∀ a b a' b',
    (bond.words a b).1 = (bond'.words a' b').1 → bond = bond' ∧ (bond.ShowsSex → a = a')
  second : ∀ bond bond' : Bond, bond.Occurs → bond'.Occurs → ∀ a b a' b',
    (bond.words a b).2 = (bond'.words a' b').2 → bond = bond' ∧ (bond.ShowsSex → b = b')
  roleOfA : ∀ options people edges a b options' people' edges' a' b',
    (classify options people edges a b).roleOfA = (classify options' people' edges' a' b').roleOfA →
      bondOf people edges a b = bondOf people' edges' a' b' ∧
        ((bondOf people edges a b).ShowsSex → sexOf people a = sexOf people' a')
  roleOfB : ∀ options people edges a b options' people' edges' a' b',
    (classify options people edges a b).roleOfB = (classify options' people' edges' a' b').roleOfB →
      bondOf people edges a b = bondOf people' edges' a' b' ∧
        ((bondOf people edges a b).ShowsSex → sexOf people b = sexOf people' b')

/-- No label stands for two bonds, and none with a gender for two sexes. -/
theorem labelsTellBonds : LabelsTellBonds where
  labelled := bond_classify
  first _ _ occurs occurs' _ _ _ _ same := occurs.of_first_eq occurs' same
  second _ _ occurs occurs' _ _ _ _ same := occurs.of_second_eq occurs' same
  roleOfA options people edges a b options' people' edges' a' b' same := by
    obtain ⟨_, occurs, labels⟩ := bond_classify options people edges a b
    obtain ⟨_, occurs', labels'⟩ := bond_classify options' people' edges' a' b'
    exact occurs.of_first_eq occurs' ((congrArg Prod.fst labels).symm.trans (same.trans (congrArg Prod.fst labels')))
  roleOfB options people edges a b options' people' edges' a' b' same := by
    obtain ⟨_, occurs, labels⟩ := bond_classify options people edges a b
    obtain ⟨_, occurs', labels'⟩ := bond_classify options' people' edges' a' b'
    exact occurs.of_second_eq occurs' ((congrArg Prod.snd labels).symm.trans (same.trans (congrArg Prod.snd labels')))

end Kindred
