import Kindred.Proofs.Classify.Kinship
import Kindred.Proofs.Pedigree.Acyclic

/-! More people and more links leave no ancestor further off than before, and end no kinship. -/

namespace Kindred

/-- Whoever is an ancestor stays one when links are added, and no further up. -/
theorem IsAncestorAt.exists_le {parent other : PersonId → PersonId → Prop} {low top : PersonId} {distance : Nat}
    (more : ∀ up down, parent up down → other up down) (above : IsAncestorAt parent low top distance) :
    ∃ nearer, nearer ≤ distance ∧ IsAncestorAt other low top nearer := by
  -- The chain is still there, and the shortest one by now is no longer.
  obtain ⟨differ, far⟩ := above
  have chain := far.ascends.mono more
  obtain ⟨nearer, near⟩ := chain.exists_isDistance
  exact ⟨nearer, near.least distance chain, differ, near⟩

/-- Chains lead from two people up to the same one. Either chain may be without steps. -/
def Meet (parent : PersonId → PersonId → Prop) (a b : PersonId) : Prop :=
  ∃ top, (∃ steps, Ascends parent steps a top) ∧ ∃ steps, Ascends parent steps b top

variable {people people' : List Person} {edges edges' : List ParentEdge} {options : ClassifyOptions}
  {a b : PersonId}

/-- What a classification finds is a relation. -/
theorem Kinship.isFound_iff {relation : Relation} {words : String × String}
    (kinship : Kinship people edges a b relation words) (options : ClassifyOptions) :
    (classify options people edges a b).isFound ↔ relation ≠ .notFound := by
  rw [Classification.isFound, bne_iff_ne, (kinship.classify_eq options).1]

/-- Two people are related when both are recorded and chains from them meet. -/
theorem isFound_classify_iff (options : ClassifyOptions) (people : List Person) (edges : List ParentEdge)
    (a b : PersonId) : (classify options people edges a b).isFound ↔
      a ∈ people.map Person.id ∧ b ∈ people.map Person.id ∧ Meet (KeptLink people edges) a b := by
  obtain ⟨relation, words, kinship⟩ := exists_kinship people edges a b
  rw [kinship.isFound_iff options]
  cases kinship with
  | stranger unknown =>
    refine iff_of_false (fun found => found rfl) fun recorded => ?_
    exact unknown.elim (absurd recorded.1) (absurd recorded.2.1)
  | same known equal =>
    subst equal
    exact iff_of_true Relation.noConfusion ⟨known, known, a, ⟨0, .refl a⟩, 0, .refl a⟩
  | ancestor recordA recordB above =>
    exact iff_of_true Relation.noConfusion
      ⟨recordA.known, recordB.known, a, ⟨0, .refl a⟩, _, above.2.ascends⟩
  | descendant recordA recordB notAbove below =>
    exact iff_of_true Relation.noConfusion
      ⟨recordA.known, recordB.known, b, ⟨_, below.2.ascends⟩, 0, .refl b⟩
  | unrelated knownA knownB differ notAbove notBelow apart =>
    refine iff_of_false (fun found => found rfl) ?_
    rintro ⟨_, _, top, ⟨_, fromA⟩, _, fromB⟩
    obtain ⟨k, farA⟩ := fromA.exists_isDistance
    obtain ⟨l, farB⟩ := fromB.exists_isDistance
    -- The chains would meet in one of the two, or in an ancestor of both.
    by_cases atA : top = a
    · subst atA
      exact notAbove l ⟨differ, farB⟩
    · by_cases atB : top = b
      · subst atB
        exact notBelow k ⟨atA, farA⟩
      · exact apart top k l ⟨atA, farA⟩ ⟨atB, farB⟩
  | collateral recordA recordB differ notAbove notBelow nearest =>
    refine iff_of_true (fun none => ?_) ⟨recordA.known, recordB.known, _,
      ⟨_, nearest.aboveA.2.ascends⟩, _, nearest.aboveB.2.ascends⟩
    have named := commonAncestor?_collateralRelation _ _ _ ▸ congrArg Relation.commonAncestor? none
    cases named

/-- Records hold everybody and every kept link of other ones, and perhaps more. -/
structure Extends (people : List Person) (edges : List ParentEdge) (people' : List Person)
    (edges' : List ParentEdge) : Prop where
  known : ∀ id ∈ people.map Person.id, id ∈ people'.map Person.id
  recorded : ∀ parent child, KeptLink people edges parent child → ⟨parent, child⟩ ∈ edges'

/-- After a change of the records every ancestor is one still, and stands no further up; every two people who were
related are related; and the nearest common ancestor of any two has no greater sum of distances. -/
structure KeepsKinship (people : List Person) (edges : List ParentEdge) (people' : List Person)
    (edges' : List ParentEdge) : Prop where
  ancestors : ∀ start id distance,
    ((KinTable.ofRecords people edges).ancestorDistances start).get? id = some distance →
      ∃ nearer, nearer ≤ distance ∧
        ((KinTable.ofRecords people' edges').ancestorDistances start).get? id = some nearer
  related : ∀ options a b, (classify options people edges a b).isFound →
    (classify options people' edges' a b).isFound
  common : ∀ a b common,
    CommonAncestor.resolve? ((KinTable.ofRecords people edges).ancestorDistances a)
      ((KinTable.ofRecords people edges).ancestorDistances b) = some common →
      ∃ nearer, CommonAncestor.resolve? ((KinTable.ofRecords people' edges').ancestorDistances a)
          ((KinTable.ofRecords people' edges').ancestorDistances b) = some nearer ∧
        nearer.distanceA + nearer.distanceB ≤ common.distanceA + common.distanceB

namespace Extends

/-- A kept link is kept among more records. -/
theorem kept (more : Extends people edges people' edges') (parent child : PersonId)
    (link : KeptLink people edges parent child) : KeptLink people' edges' parent child :=
  ⟨link.differ, more.known _ link.parentKnown, more.known _ link.childKnown, more.recorded _ _ link⟩

/-- Links that join two people of the records are enough to hold. -/
theorem of_links (known : ∀ id ∈ people.map Person.id, id ∈ people'.map Person.id)
    (recorded : ∀ edge ∈ edges, edge.parent ∈ people.map Person.id → edge.child ∈ people.map Person.id →
      edge ∈ edges') : Extends people edges people' edges' :=
  ⟨known, fun _ _ link => recorded _ link.recorded link.parentKnown link.childKnown⟩

/-- Records with the same people or more and with the same links or more hold all that is kept. -/
theorem of_subset (known : ∀ id ∈ people.map Person.id, id ∈ people'.map Person.id)
    (recorded : edges ⊆ edges') : Extends people edges people' edges' :=
  ⟨known, fun _ _ link => recorded link.recorded⟩

/-- Of three records the last hold what the first do. -/
theorem trans {people'' : List Person} {edges'' : List ParentEdge} (more : Extends people edges people' edges')
    (further : Extends people' edges' people'' edges'') : Extends people edges people'' edges'' :=
  ⟨fun id known => further.known id (more.known id known),
    fun parent child link => further.recorded parent child (more.kept parent child link)⟩

/-- Among more records the nearest common ancestor of two people has no greater sum of distances. -/
theorem exists_isNearestCommon_le (more : Extends people edges people' edges') {common : PersonId} {k l : Nat}
    (nearest : IsNearestCommon (KeptLink people edges) a b common k l) :
    ∃ common' k' l', IsNearestCommon (KeptLink people' edges') a b common' k' l' ∧ k' + l' ≤ k + l := by
  -- The old one is a common ancestor still, and the nearest one is at most as far as that.
  obtain ⟨k₁, lessA, aboveA⟩ := nearest.aboveA.exists_le more.kept
  obtain ⟨l₁, lessB, aboveB⟩ := nearest.aboveB.exists_le more.kept
  obtain ⟨common', k', l', nearest'⟩ := exists_isNearestCommon aboveA aboveB
  refine ⟨common', k', l', nearest', ?_⟩
  rcases nearest'.nearest common k₁ l₁ aboveA aboveB with same | less | ⟨equal, _⟩
  · subst same
    have sameA := nearest'.aboveA.2.unique aboveA.2
    have sameB := nearest'.aboveB.2.unique aboveB.2
    omega
  · omega
  · omega

/-- More people and more links keep all kinship. -/
theorem keepsKinship (more : Extends people edges people' edges') : KeepsKinship people edges people' edges' where
  ancestors start id distance found := by
    rw [get?_ancestorDistances_ofRecords] at found
    obtain ⟨nearer, less, above⟩ := found.exists_le more.kept
    exact ⟨nearer, less, (get?_ancestorDistances_ofRecords start id nearer).mpr above⟩
  related options a b found := by
    -- The chains that meet are still there.
    rw [isFound_classify_iff] at found ⊢
    obtain ⟨knownA, knownB, top, ⟨k, fromA⟩, l, fromB⟩ := found
    exact ⟨more.known a knownA, more.known b knownB, top, ⟨k, fromA.mono more.kept⟩, l, fromB.mono more.kept⟩
  common a b common resolved := by
    rw [resolve?_ofRecords] at resolved
    obtain ⟨common', k, l, nearest, less⟩ := more.exists_isNearestCommon_le resolved
    exact ⟨⟨common', k, l⟩, (resolve?_ofRecords a b ⟨common', k, l⟩).mpr nearest, less⟩

end Extends

end Kindred
