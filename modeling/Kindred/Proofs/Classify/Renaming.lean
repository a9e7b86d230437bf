import Kindred.Proofs.Classify.Labels
import Kindred.Proofs.Pedigree.Renaming
import Mathlib.Data.Set.Function
import Mathlib.Logic.Equiv.Basic

/-! Under other identifiers two people are of the same kinship. Only which of several common ancestors is named can
change, and with it the order of the two where the distances to two of them are exchanged. -/

namespace Kindred

/-- Two relations are of one kind, with the same numbers. The line, the common ancestor and the question who of an
aunt's family is the senior are left open. -/
inductive Relation.SameKind : Relation → Relation → Prop
  | notFound : SameKind .notFound .notFound
  | samePerson : SameKind .samePerson .samePerson
  | directLine (generations : Nat) (aIsAncestor : Bool) (line line' : Option Line) :
    SameKind (.directLine generations aIsAncestor line) (.directLine generations aIsAncestor line')
  | siblings (common common' : PersonId) : SameKind (.siblings common) (.siblings common')
  | auntUncle (degree : Nat) (aIsSenior aIsSenior' : Bool) (common common' : PersonId) :
    SameKind (.auntUncle degree aIsSenior common) (.auntUncle degree aIsSenior' common')
  | cousins (degree removal : Nat) (common common' : PersonId) :
    SameKind (.cousins degree removal common) (.cousins degree removal common')

/-- Whether the first of an aunt's family is the senior. -/
def Relation.aIsSenior? : Relation → Option Bool
  | .auntUncle _ aIsSenior _ => some aIsSenior
  | .notFound | .samePerson | .directLine .. | .siblings _ | .cousins .. => none

/-- Two people have, besides a nearest common ancestor, another one at the same two distances, which are unequal and
exchanged. -/
def ExchangedTie (people : List Person) (edges : List ParentEdge) (a b : PersonId) : Prop :=
  ∃ first second k l, k ≠ l ∧ IsNearestCommon (KeptLink people edges) a b first k l ∧
    IsAncestorAt (KeptLink people edges) a second l ∧ IsAncestorAt (KeptLink people edges) b second k

/-- At the same two distances, in either order, the relation is of one kind. -/
theorem sameKind_collateralRelation {k l k' l' : Nat} (sum : k + l = k' + l') (larger : max k l = max k' l')
    (common common' : PersonId) : (collateralRelation k l common).SameKind (collateralRelation k' l' common') := by
  -- The kind depends on the sum and the larger distance alone.
  have smaller : min k l = min k' l' := by omega
  have ones : (k = 1 ∧ l = 1) ↔ k' = 1 ∧ l' = 1 := by omega
  have aside : (k = 1 ∨ l = 1) ↔ k' = 1 ∨ l' = 1 := by omega
  simp only [collateralRelation, ones, aside, larger, smaller]
  split
  · exact .siblings common common'
  · split
    · exact .auntUncle _ _ _ common common'
    · exact .cousins _ _ common common'

/-- The common ancestor is named by no other part of a relation. -/
theorem aIsSenior?_collateralRelation (k l : Nat) (common common' : PersonId) :
    (collateralRelation k l common).aIsSenior? = (collateralRelation k l common').aIsSenior? := by
  rw [collateralRelation, collateralRelation]
  split
  · rfl
  · split <;> rfl

variable {people : List Person} {edges : List ParentEdge} {a b : PersonId} {rename : PersonId → PersonId}
  {inside : Set PersonId}

/-- To see that there is no tie it is enough to go through the common ancestors. -/
theorem not_exchangedTie_of_candidates
    (untied : ∀ first ∈ CommonAncestor.candidates ((KinTable.ofRecords people edges).ancestorDistances a)
        ((KinTable.ofRecords people edges).ancestorDistances b),
      ∀ second ∈ CommonAncestor.candidates ((KinTable.ofRecords people edges).ancestorDistances a)
        ((KinTable.ofRecords people edges).ancestorDistances b),
      first.distanceA = second.distanceB → first.distanceB = second.distanceA → first.distanceA = first.distanceB) :
    ¬ExchangedTie people edges a b := by
  rintro ⟨first, second, k, l, differ, nearest, farA, farB⟩
  refine differ (untied ⟨first, k, l⟩ ?_ ⟨second, l, k⟩ ?_ rfl rfl)
  · exact (mem_candidates_ofRecords a b _).mpr ⟨nearest.aboveA, nearest.aboveB⟩
  · exact (mem_candidates_ofRecords a b _).mpr ⟨farA, farB⟩

/-- The last record of an identifier is, renamed, that of the new one. -/
theorem LastRecord.renamed (injOn : Set.InjOn rename inside) (known : ∀ id ∈ people.map Person.id, id ∈ inside)
    {id : PersonId} {person : Person} (record : LastRecord people id person) :
    LastRecord (people.map (Person.renamed rename)) (rename id) (person.renamed rename) := by
  -- Nobody behind gets the new identifier who did not have the old one.
  obtain ⟨rfl, before, after, rfl, later⟩ := record
  refine ⟨rfl, before.map (Person.renamed rename), after.map (Person.renamed rename), by simp, ?_⟩
  refine List.forall_mem_map.mpr fun other member same => later other member ?_
  exact injOn (known _ (by simp [List.mem_map_of_mem member])) (known _ (by simp)) same

/-- The nearest common ancestor under the new identifiers stands at the distances of the nearest one under the old
ones, perhaps in the other order. -/
theorem Renames.nearest {parent renamed : PersonId → PersonId → Prop} (renames : Renames rename inside parent renamed)
    (hereA : a ∈ inside) (hereB : b ∈ inside) {common common' : PersonId} {k l k' l' : Nat}
    (nearest : IsNearestCommon parent a b common k l)
    (nearest' : IsNearestCommon renamed (rename a) (rename b) common' k' l') :
    (k + l = k' + l' ∧ max k l = max k' l') ∧ ∃ old, IsAncestorAt parent a old k' ∧ IsAncestorAt parent b old l' := by
  -- Under the old identifiers the one that is nearest now was a common ancestor, too.
  obtain ⟨old, ⟨farA, farB⟩, rfl⟩ := (renames.isCommon_iff hereA hereB _ _ _).mp ⟨nearest'.aboveA, nearest'.aboveB⟩
  refine ⟨?_, old, farA, farB⟩
  -- Each of the two is no nearer than the other.
  have forth := nearest.nearest old k' l' farA farB
  obtain ⟨aboveA, aboveB⟩ := (renames.isCommon_iff hereA hereB _ k l).mpr
    ⟨common, ⟨nearest.aboveA, nearest.aboveB⟩, rfl⟩
  have back := nearest'.nearest (rename common) k l aboveA aboveB
  by_cases equal : old = common
  · subst equal
    rw [nearest.aboveA.2.unique farA.2, nearest.aboveB.2.unique farB.2]
    exact ⟨rfl, rfl⟩
  · have apart : rename common ≠ rename old := fun same =>
      equal (renames.injOn (renames.inside_of_ascends hereA nearest.aboveA.2.ascends)
        (renames.inside_of_ascends hereA farA.2.ascends) same).symm
    simp only [equal, apart, false_or] at forth back
    omega

/-- All identifiers that occur in some records or belong to one of two people. -/
def mentioned (people : List Person) (edges : List ParentEdge) (a b : PersonId) : List PersonId :=
  a :: b :: people.map Person.id ++ edges.flatMap fun edge => [edge.parent, edge.child]

/-- Whoever is recorded is mentioned. -/
theorem mem_mentioned_of_mem (people : List Person) (edges : List ParentEdge) (a b : PersonId) :
    ∀ id ∈ people.map Person.id, id ∈ {id | id ∈ mentioned people edges a b} :=
  fun _ recorded => List.mem_append_left _ (List.mem_cons_of_mem _ (List.mem_cons_of_mem _ recorded))

section Renamed

variable (injOn : Set.InjOn rename {id | id ∈ mentioned people edges a b})
include injOn

/-- Renamed records have the kept links of the records, renamed. -/
theorem renames_mentioned : Renames rename {id | id ∈ mentioned people edges a b} (KeptLink people edges)
    (KeptLink (people.map (Person.renamed rename)) (edges.map (ParentEdge.renamed rename))) := by
  refine renames_keptLink injOn (mem_mentioned_of_mem people edges a b) fun edge member => ?_
  have ends : ∀ id ∈ [edge.parent, edge.child], id ∈ mentioned people edges a b := fun id either =>
    List.mem_append_right _ (List.mem_flatMap.mpr ⟨edge, member, either⟩)
  exact ⟨ends _ (by simp), ends _ (by simp)⟩

/-- Two people are of one kinship under both sets of identifiers. With a tie of exchanged distances the two may change
places in it. -/
theorem Kinship.renamed {relation : Relation} {words : String × String}
    (kinship : Kinship people edges a b relation words) :
    ∃ relation' words', Kinship (people.map (Person.renamed rename)) (edges.map (ParentEdge.renamed rename)) (rename a)
        (rename b) relation' words' ∧
      relation.SameKind relation' ∧
      (¬ExchangedTie people edges a b → relation'.aIsSenior? = relation.aIsSenior? ∧ words' = words) := by
  have renames := renames_mentioned injOn
  have hereA : a ∈ {id | id ∈ mentioned people edges a b} := by simp [mentioned]
  have hereB : b ∈ {id | id ∈ mentioned people edges a b} := by simp [mentioned]
  have known := mem_mentioned_of_mem people edges a b
  have knownA := rename_mem_map_renamed_iff injOn known hereA
  have knownB := rename_mem_map_renamed_iff injOn known hereB
  have aboveA := renames.isAncestorAt_rename_iff hereA hereB
  have aboveB := renames.isAncestorAt_rename_iff hereB hereA
  -- Each question that decides the kinship has the same answer.
  cases kinship with
  | stranger unknown =>
    rw [← knownA, ← knownB] at unknown
    exact ⟨_, _, .stranger unknown, .notFound, fun _ => ⟨rfl, rfl⟩⟩
  | same recorded equal =>
    exact ⟨_, _, .same (knownA.mpr recorded) (congrArg rename equal), .samePerson, fun _ => ⟨rfl, rfl⟩⟩
  | ancestor recordA recordB above =>
    -- The next person up may be another one, and with them the line.
    obtain ⟨next, way⟩ := exists_isNextUp ((aboveB _).mpr above)
    obtain ⟨through, recordNext⟩ := way.exists_record
    exact ⟨_, _, .ancestor (recordA.renamed injOn known) (recordB.renamed injOn known) ((aboveB _).mpr above) way
      recordNext, .directLine _ true _ _, fun _ => ⟨rfl, rfl⟩⟩
  | descendant recordA recordB notAbove below =>
    obtain ⟨next, way⟩ := exists_isNextUp ((aboveA _).mpr below)
    obtain ⟨through, recordNext⟩ := way.exists_record
    exact ⟨_, _, .descendant (recordA.renamed injOn known) (recordB.renamed injOn known)
      (fun steps far => notAbove steps ((aboveB _).mp far)) ((aboveA _).mpr below) way recordNext,
      .directLine _ false _ _, fun _ => ⟨rfl, rfl⟩⟩
  | unrelated recordedA recordedB differ notAbove notBelow apart =>
    refine ⟨_, _, .unrelated (knownA.mpr recordedA) (knownB.mpr recordedB)
      (fun same => differ (injOn hereA hereB same)) (fun steps far => notAbove steps ((aboveB _).mp far))
      (fun steps far => notBelow steps ((aboveA _).mp far)) (fun common k l farA farB => ?_),
      .notFound, fun _ => ⟨rfl, rfl⟩⟩
    obtain ⟨id, ⟨oldA, oldB⟩, _⟩ := (renames.isCommon_iff hereA hereB common k l).mp ⟨farA, farB⟩
    exact apart id k l oldA oldB
  | collateral recordA recordB differ notAbove notBelow nearest =>
    rename_i common k l
    -- There is a nearest common ancestor under the new identifiers, perhaps another one.
    obtain ⟨farA, farB⟩ := (renames.isCommon_iff hereA hereB _ k l).mpr ⟨common, ⟨nearest.aboveA, nearest.aboveB⟩, rfl⟩
    obtain ⟨common', k', l', nearest'⟩ := exists_isNearestCommon farA farB
    obtain ⟨⟨sum, larger⟩, old, oldA, oldB⟩ := renames.nearest hereA hereB nearest nearest'
    refine ⟨_, _, .collateral (recordA.renamed injOn known) (recordB.renamed injOn known)
      (fun same => differ (injOn hereA hereB same)) (fun steps far => notAbove steps ((aboveB _).mp far))
      (fun steps far => notBelow steps ((aboveA _).mp far)) nearest',
      sameKind_collateralRelation sum larger common common', fun noTie => ?_⟩
    -- Exchanged distances would be those of a tie.
    by_cases same : k = k'
    · obtain rfl := same
      obtain rfl : l = l' := by omega
      exact ⟨aIsSenior?_collateralRelation k l common' common, rfl⟩
    · obtain rfl : k' = l := by omega
      obtain rfl : l' = k := by omega
      exact absurd ⟨common, old, l', k', same, nearest, oldA, oldB⟩ noTie

end Renamed

/-- The choice of identifiers does not change the kind of kinship: under new ones, different for all that are mentioned,
two people are in a relation of the same kind with the same numbers. Unless the distances to two nearest common
ancestors are exchanged, both are called the same. -/
theorem classify_renamed (options : ClassifyOptions) (people : List Person) (edges : List ParentEdge) (a b : PersonId)
    (rename : PersonId → PersonId) (injOn : Set.InjOn rename {id | id ∈ mentioned people edges a b}) :
    let before := classify options people edges a b
    let after := classify options (people.map (Person.renamed rename)) (edges.map (ParentEdge.renamed rename))
      (rename a) (rename b)
    before.relation.SameKind after.relation ∧
      (¬ExchangedTie people edges a b →
        after.relation.aIsSenior? = before.relation.aIsSenior? ∧
          after.roleOfA = before.roleOfA ∧ after.roleOfB = before.roleOfB) := by
  intro before after
  -- What is told under either set of identifiers is the kinship there.
  obtain ⟨relation, words, kinship⟩ := exists_kinship people edges a b
  obtain ⟨relation', words', kinship', kind, names⟩ := kinship.renamed injOn
  obtain ⟨told, named⟩ := kinship.classify_eq options
  obtain ⟨told', named'⟩ := kinship'.classify_eq options
  rw [told, told']
  refine ⟨kind, fun noTie => ?_⟩
  obtain ⟨senior, same⟩ := names noTie
  rw [← named, ← named'] at same
  exact ⟨senior, congrArg Prod.fst same, congrArg Prod.snd same⟩

/-- An aunt stays the aunt when she and the mother of her nephew exchange their identifiers. -/
theorem classify_renamed_aunt :
    let people : List Person := [⟨⟨"a"⟩, "Анна", .female, none⟩, ⟨⟨"b"⟩, "Борис", .male, none⟩,
      ⟨⟨"g"⟩, "Галина", .female, none⟩, ⟨⟨"p"⟩, "Полина", .female, none⟩]
    let edges : List ParentEdge := [⟨⟨"g"⟩, ⟨"a"⟩⟩, ⟨⟨"g"⟩, ⟨"p"⟩⟩, ⟨⟨"p"⟩, ⟨"b"⟩⟩]
    let rename (id : PersonId) : PersonId := if id = ⟨"a"⟩ then ⟨"p"⟩ else if id = ⟨"p"⟩ then ⟨"a"⟩ else id
    Set.InjOn rename {id | id ∈ mentioned people edges ⟨"a"⟩ ⟨"b"⟩} ∧
      ¬ExchangedTie people edges ⟨"a"⟩ ⟨"b"⟩ ∧
      (classify {} people edges ⟨"a"⟩ ⟨"b"⟩).relation = .auntUncle 1 true ⟨"g"⟩ ∧
      let after := classify {} (people.map (Person.renamed rename)) (edges.map (ParentEdge.renamed rename)) ⟨"p"⟩ ⟨"b"⟩
      (classify {} people edges ⟨"a"⟩ ⟨"b"⟩).relation.SameKind after.relation ∧ after.relation.aIsSenior? = some true ∧
        after.roleOfA = "тётя" ∧ after.roleOfB = "племянник" := by
  intro people edges rename
  have different : ∀ one ∈ mentioned people edges ⟨"a"⟩ ⟨"b"⟩, ∀ other ∈ mentioned people edges ⟨"a"⟩ ⟨"b"⟩,
      rename one = rename other → one = other := by decide
  have injOn : Set.InjOn rename {id | id ∈ mentioned people edges ⟨"a"⟩ ⟨"b"⟩} :=
    fun one here other there => different one here other there
  have noTie : ¬ExchangedTie people edges ⟨"a"⟩ ⟨"b"⟩ := not_exchangedTie_of_candidates (by decide)
  have relation : (classify {} people edges ⟨"a"⟩ ⟨"b"⟩).relation = .auntUncle 1 true ⟨"g"⟩ := by decide
  have roleOfA : (classify {} people edges ⟨"a"⟩ ⟨"b"⟩).roleOfA = "тётя" := by decide
  have roleOfB : (classify {} people edges ⟨"a"⟩ ⟨"b"⟩).roleOfB = "племянник" := by decide
  obtain ⟨kind, names⟩ := classify_renamed {} people edges ⟨"a"⟩ ⟨"b"⟩ rename injOn
  obtain ⟨senior, sameA, sameB⟩ := names noTie
  exact ⟨injOn, noTie, relation, kind, senior.trans (relation ▸ rfl), sameA.trans roleOfA, sameB.trans roleOfB⟩

/-- Where two common ancestors tie at exchanged distances, the one behind is the nearest after the two have exchanged
their identifiers. -/
theorem Renames.nearest_swap {parent renamed : PersonId → PersonId → Prop} {first second : PersonId} {k l : Nat}
    (renames : Renames (Equiv.swap first second) inside parent renamed) (hereA : a ∈ inside) (hereB : b ∈ inside)
    (differ : k ≠ l) (nearest : IsNearestCommon parent a b first k l) (farA : IsAncestorAt parent a second l)
    (farB : IsAncestorAt parent b second k) :
    IsNearestCommon renamed (Equiv.swap first second a) (Equiv.swap first second b) first l k := by
  -- The two are different, and before the exchange the first one precedes.
  have apart : second ≠ first := by
    rintro rfl
    exact differ (nearest.aboveA.2.unique farA.2)
  have behind : first < second := by
    have order := nearest.nearest second l k farA farB
    rw [Nat.add_comm l k, Nat.max_comm l k] at order
    simpa [apart] using order
  obtain ⟨aboveA, aboveB⟩ := (renames.isCommon_iff hereA hereB first l k).mpr
    ⟨second, ⟨farA, farB⟩, (Equiv.swap_apply_right first second).symm⟩
  refine ⟨aboveA, aboveB, fun other k' l' otherA otherB => ?_⟩
  obtain ⟨id, ⟨oldA, oldB⟩, rfl⟩ := (renames.isCommon_iff hereA hereB other k' l').mp ⟨otherA, otherB⟩
  rw [Nat.add_comm l k, Nat.max_comm l k]
  by_cases isSecond : id = second
  · exact Or.inl (isSecond ▸ Equiv.swap_apply_right first second)
  · by_cases isFirst : id = first
    · -- The former nearest one comes behind now, at the same distances.
      subst isFirst
      rw [Equiv.swap_apply_left, nearest.aboveA.2.unique oldA.2, nearest.aboveB.2.unique oldB.2]
      exact Or.inr (Or.inr ⟨rfl, Or.inr ⟨rfl, behind⟩⟩)
    · rw [Equiv.swap_apply_of_ne_of_ne isFirst isSecond]
      exact nearest.nearest id k' l' oldA oldB

/-- At exchanged distances the two are called otherwise. -/
theorem collateralWords_ne {k l : Nat} (above : 1 ≤ k) (other : 1 ≤ l) (differ : k ≠ l) (a b : Sex) :
    collateralWords l k a b ≠ collateralWords k l a b := by
  -- Without anybody's name the relation still tells who is the senior or the nearer one.
  let bond (k l : Nat) : Bond := (collateralRelation k l default).bond fun _ => decide (k ≤ l)
  have exchanged : bond l k ≠ bond k l := by
    by_cases first : k = 1
    · simp [bond, collateralRelation, Relation.bond, first, first ▸ differ.symm]
    · by_cases second : l = 1
      · simp [bond, collateralRelation, Relation.bond, first, second]
      · simp only [bond, collateralRelation, Relation.bond, first, second, and_self, or_self, if_false, ne_eq,
          Bond.cousins.injEq, decide_eq_decide]
        omega
  have tells : ∀ {k l : Nat}, 1 ≤ k → 1 ≤ l → (bond k l).Occurs ∧ ∀ a b, collateralWords k l a b = (bond k l).words a b :=
    fun above other => bond_collateralRelation above other default rfl
  obtain ⟨occurs, words⟩ := tells above other
  obtain ⟨occurs', words'⟩ := tells other above
  -- The same label would tell the same bond.
  rw [words, words']
  exact fun same => exchanged (occurs'.of_first_eq occurs (congrArg Prod.fst same)).1

/-- Of two people of whom neither is an ancestor of the other the labels stay under all new identifiers exactly if there
is no tie of exchanged distances. -/
theorem labels_stay_iff (options : ClassifyOptions) (knownA : a ∈ people.map Person.id)
    (knownB : b ∈ people.map Person.id) (differ : a ≠ b)
    (notAbove : ∀ steps, ¬IsAncestorAt (KeptLink people edges) b a steps)
    (notBelow : ∀ steps, ¬IsAncestorAt (KeptLink people edges) a b steps) :
    (∀ rename : PersonId → PersonId, Function.Injective rename →
      let after := classify options (people.map (Person.renamed rename)) (edges.map (ParentEdge.renamed rename))
        (rename a) (rename b)
      (after.roleOfA, after.roleOfB) =
        ((classify options people edges a b).roleOfA, (classify options people edges a b).roleOfB)) ↔
      ¬ExchangedTie people edges a b := by
  constructor
  · rintro stay ⟨first, second, k, l, unequal, nearest, farA, farB⟩
    obtain ⟨personA, recordA⟩ := exists_lastRecord knownA
    obtain ⟨personB, recordB⟩ := exists_lastRecord knownB
    -- The two common ancestors exchange their identifiers.
    have injective : Function.Injective (Equiv.swap first second) := Equiv.injective _
    have injOn : Set.InjOn (Equiv.swap first second) {id | id ∈ mentioned people edges a b} := injective.injOn
    have renames := renames_mentioned injOn
    have known := mem_mentioned_of_mem people edges a b
    have hereA := known a knownA
    have hereB := known b knownB
    have nearest' := renames.nearest_swap hereA hereB unequal nearest farA farB
    have before := Kinship.collateral recordA recordB differ notAbove notBelow nearest
    have after := Kinship.collateral (recordA.renamed injective.injOn known) (recordB.renamed injective.injOn known)
      (fun same => differ (injective same))
      (fun steps far => notAbove steps ((renames.isAncestorAt_rename_iff hereB hereA _).mp far))
      (fun steps far => notBelow steps ((renames.isAncestorAt_rename_iff hereA hereB _).mp far)) nearest'
    have same := stay _ injective
    rw [(before.classify_eq options).2] at same
    have same := (after.classify_eq options).2.symm.trans same
    obtain ⟨_, rfl, _⟩ := nearest.aboveA.exists_succ
    obtain ⟨_, rfl, _⟩ := nearest.aboveB.exists_succ
    exact collateralWords_ne (Nat.le_add_left 1 _) (Nat.le_add_left 1 _) unequal personA.sex personB.sex same
  · intro noTie rename injective after
    obtain ⟨relation, words, kinship⟩ := exists_kinship people edges a b
    obtain ⟨_, _, kinship', _, names⟩ := kinship.renamed injective.injOn
    rw [(kinship.classify_eq options).2, ← (names noTie).2]
    exact (kinship'.classify_eq options).2

end Kindred
