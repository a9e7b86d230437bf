import Kindred.Classify
import Kindred.Proofs.Pedigree.Ascent
import Kindred.Proofs.Pedigree.NearestCommon
import Kindred.Proofs.Pedigree.Table

/-! What a snapshot of the records answers, in terms of the kept links alone. -/

namespace Kindred

/-- The last of the people recorded under an identifier. -/
def LastRecord (people : List Person) (id : PersonId) (person : Person) : Prop :=
  -- The person has the identifier, and nobody after the person has it.
  person.id = id ∧
    ∃ before after, people = before ++ person :: after ∧ ∀ other ∈ after, other.id ≠ id

/-- The least of a person's parents from whom a shortest chain leads on to an ancestor. -/
structure IsNextUp (parent : PersonId → PersonId → Prop) (low top : PersonId) (distance : Nat)
    (next : PersonId) : Prop where
  isParent : parent next low
  leadsOn : IsDistance parent next top (distance - 1)
  least : ∀ other, parent other low → IsDistance parent other top (distance - 1) →
    other = next ∨ next < other

/-- The shared ancestor that comes first by the sum of the distances, then by the larger one, then by
the identifier. -/
structure IsNearestCommon (parent : PersonId → PersonId → Prop) (a b common : PersonId) (k l : Nat) :
    Prop where
  aboveA : IsAncestorAt parent a common k
  aboveB : IsAncestorAt parent b common l
  nearest : ∀ other k' l', IsAncestorAt parent a other k' → IsAncestorAt parent b other l' →
    other = common ∨ k + l < k' + l' ∨
      (k + l = k' + l' ∧ (max k l < max k' l' ∨ (max k l = max k' l' ∧ common < other)))

variable {people : List Person} {edges : List ParentEdge} {options : ClassifyOptions}

namespace Snapshot

/-- The search for a person finds the last record. -/
theorem person?_eq_some_iff (people : List Person) (id : PersonId) (person : Person) :
    person? people id = some person ↔ LastRecord people id person := by
  -- The first one of the reversed list is the last one of the list.
  rw [person?, List.find?_eq_some_iff_append, LastRecord]
  simp only [decide_eq_true_eq, Bool.not_eq_true', decide_eq_false_iff_not]
  refine and_congr_right fun _ => ⟨?_, ?_⟩
  · rintro ⟨later, earlier, split, others⟩
    refine ⟨earlier.reverse, later.reverse, ?_, by simpa using others⟩
    rw [← List.reverse_reverse people, split]
    simp
  · rintro ⟨before, after, rfl, others⟩
    exact ⟨after.reverse, before.reverse, by simp, by simpa using others⟩

/-- Nobody is found exactly under the identifiers that do not occur. -/
theorem person?_eq_none_iff (people : List Person) (id : PersonId) :
    person? people id = none ↔ id ∉ people.map Person.id := by
  simp [person?]

end Snapshot

/-- Under an identifier that occurs there is a last record. -/
theorem exists_lastRecord {id : PersonId} (known : id ∈ people.map Person.id) :
    ∃ person, LastRecord people id person := by
  -- The search for a person cannot come back empty.
  cases found : Snapshot.person? people id with
  | none => exact absurd known ((Snapshot.person?_eq_none_iff people id).mp found)
  | some person => exact ⟨person, (Snapshot.person?_eq_some_iff people id person).mp found⟩

/-- Whose last record there is has been recorded. -/
theorem LastRecord.known {id : PersonId} {person : Person} (record : LastRecord people id person) :
    id ∈ people.map Person.id := by
  obtain ⟨rfl, before, after, rfl, _⟩ := record
  simp

/-- The distances of the records are those along kept links. -/
theorem get?_ancestorDistances_ofRecords (start id : PersonId) (distance : Nat) :
    ((KinTable.ofRecords people edges).ancestorDistances start).get? id = some distance ↔
      IsAncestorAt (KeptLink people edges) start id distance := by
  rw [KinTable.get?_ancestorDistances, parents_ofRecords]

/-- Without a distance there is no ancestor. -/
theorem get?_ancestorDistances_eq_none {start id : PersonId}
    (apart : ∀ distance, ¬IsAncestorAt (KeptLink people edges) start id distance) :
    ((KinTable.ofRecords people edges).ancestorDistances start).get? id = none := by
  -- A distance that is found is a distance along kept links.
  cases found : ((KinTable.ofRecords people edges).ancestorDistances start).get? id with
  | none => rfl
  | some distance =>
    exact absurd ((get?_ancestorDistances_ofRecords start id distance).mp found) (apart distance)

/-- The shared ancestors that are compared are those along kept links. -/
theorem mem_candidates_ofRecords (a b : PersonId) (common : CommonAncestor) :
    common ∈ CommonAncestor.candidates ((KinTable.ofRecords people edges).ancestorDistances a)
        ((KinTable.ofRecords people edges).ancestorDistances b) ↔
      IsAncestorAt (KeptLink people edges) a common.id common.distanceA ∧
        IsAncestorAt (KeptLink people edges) b common.id common.distanceB := by
  rw [CommonAncestor.mem_candidates_iff, get?_ancestorDistances_ofRecords,
    get?_ancestorDistances_ofRecords]

/-- The resolved ancestor is the nearest common one along kept links. -/
theorem resolve?_ofRecords (a b : PersonId) (common : CommonAncestor) :
    CommonAncestor.resolve? ((KinTable.ofRecords people edges).ancestorDistances a)
        ((KinTable.ofRecords people edges).ancestorDistances b) = some common ↔
      IsNearestCommon (KeptLink people edges) a b common.id common.distanceA common.distanceB := by
  -- The distances in the two maps are those along kept links.
  rw [CommonAncestor.resolve?_eq_some_iff_isNearestShared]
  have above : ∀ low id distance,
      ((KinTable.ofRecords people edges).ancestorDistances low).get? id = some distance ↔
        IsAncestorAt (KeptLink people edges) low id distance := get?_ancestorDistances_ofRecords
  constructor
  · intro shared
    refine ⟨(above _ _ _).mp shared.inFirst, (above _ _ _).mp shared.inSecond, ?_⟩
    intro other k l otherA otherB
    exact shared.least other k l ((above _ _ _).mpr otherA) ((above _ _ _).mpr otherB)
  · intro nearest
    refine ⟨(above _ _ _).mpr nearest.aboveA, (above _ _ _).mpr nearest.aboveB, ?_⟩
    intro other k l otherA otherB
    exact nearest.nearest other k l ((above _ _ _).mp otherA) ((above _ _ _).mp otherB)

/-- What the search for a line asks of a parent: the ancestor is that parent, or stands that many
generations above. -/
def KinTable.leadsOn (table : KinTable) (top : PersonId) (rest : Nat) (parent : PersonId) : Bool :=
  parent = top || (0 < rest && (table.ancestorDistances parent).get? top = some rest)

/-- The line towards an ancestor is the one through the first parent that leads on. -/
theorem Snapshot.lineTowards_succ (snapshot : Snapshot) (low top : PersonId) (rest : Nat) :
    snapshot.lineTowards low top (rest + 1) =
      ((snapshot.table.parents low).find? (snapshot.table.leadsOn top rest)).bind fun parent =>
        (person? snapshot.people parent).bind fun person => Line.throughParent person.sex :=
  rfl

/-- An ancestor stands at least one step up. -/
theorem IsAncestorAt.exists_succ {parent : PersonId → PersonId → Prop} {low top : PersonId}
    {distance : Nat} (above : IsAncestorAt parent low top distance) :
    ∃ rest, distance = rest + 1 ∧ IsDistance parent low top (rest + 1) := by
  obtain ⟨differ, far⟩ := above
  cases distance with
  | zero => exact absurd (IsDistance.zero_iff.mp far).symm differ
  | succ rest => exact ⟨rest, rfl, far⟩

/-- A parent leads on exactly when the ancestor stands one step less above that parent. -/
theorem leadsOn_iff {low top parent : PersonId} {rest : Nat}
    (above : IsDistance (KeptLink people edges) low top (rest + 1))
    (up : KeptLink people edges parent low) :
    (KinTable.ofRecords people edges).leadsOn top rest parent ↔
      IsDistance (KeptLink people edges) parent top rest := by
  -- A parent who is the ancestor stands one step up, and no other parent stands at distance zero.
  simp only [KinTable.leadsOn, Bool.or_eq_true, Bool.and_eq_true, decide_eq_true_eq,
    get?_ancestorDistances_ofRecords]
  constructor
  · rintro (same | ⟨_, distance⟩)
    · -- The parent is the ancestor, so one step is enough and nothing is left of the distance.
      have one := above.least 1 ((Ascends.refl low).step (same ▸ up))
      have none : rest = 0 := by omega
      rw [none, same]
      exact IsDistance.self top
    · exact distance.2
  · intro distance
    by_cases same : parent = top
    · exact Or.inl same
    · -- Only the ancestor stands at distance zero, so there is a generation left to look through.
      have positive : rest ≠ 0 := by
        rintro rfl
        exact same (IsDistance.zero_iff.mp distance)
      exact Or.inr ⟨Nat.pos_of_ne_zero positive, Ne.symm same, distance⟩

/-- The search for a line finds the next person up. -/
theorem find?_leadsOn_eq_some_iff {low top : PersonId} {rest : Nat}
    (above : IsDistance (KeptLink people edges) low top (rest + 1)) (next : PersonId) :
    ((KinTable.ofRecords people edges).parents low).find?
        ((KinTable.ofRecords people edges).leadsOn top rest) = some next ↔
      IsNextUp (KeptLink people edges) low top (rest + 1) next := by
  -- The parents stand in increasing order, so the first that leads on is the least.
  have holds := KinTable.describes_ofRecords people edges
  have accepted : ∀ parent, parent ∈ (KinTable.ofRecords people edges).parents low →
      ((KinTable.ofRecords people edges).leadsOn top rest parent ↔
        IsDistance (KeptLink people edges) parent top rest) := fun parent member =>
    leadsOn_iff above ((holds.parents parent low).mp member)
  rw [find?_eq_some_iff_least (holds.parentsIncreasing low)]
  constructor
  · rintro ⟨member, fits, least⟩
    refine ⟨(holds.parents next low).mp member, (accepted next member).mp fits, ?_⟩
    intro other up distance
    have otherMember := (holds.parents other low).mpr up
    exact least other otherMember ((accepted other otherMember).mpr distance)
  · intro way
    have member := (holds.parents next low).mpr way.isParent
    refine ⟨member, (accepted next member).mpr way.leadsOn, ?_⟩
    intro other otherMember fits
    exact way.least other ((holds.parents other low).mp otherMember)
      ((accepted other otherMember).mp fits)

/-- Below an ancestor there is a next person up. -/
theorem exists_isNextUp {low top : PersonId} {distance : Nat}
    (above : IsAncestorAt (KeptLink people edges) low top distance) :
    ∃ next, IsNextUp (KeptLink people edges) low top distance next := by
  -- The first step of a shortest chain goes to a parent that leads on, so the search finds one.
  obtain ⟨rest, rfl, far⟩ := above.exists_succ
  obtain ⟨first, up, further⟩ := far.ascends.first_step
  have leads : IsDistance (KeptLink people edges) first top rest := far.after_step up further
  -- The search goes through all parents, so it does not miss this one.
  have found : (((KinTable.ofRecords people edges).parents low).find?
      ((KinTable.ofRecords people edges).leadsOn top rest)).isSome := by
    rw [List.find?_isSome]
    exact ⟨first, ((KinTable.describes_ofRecords people edges).parents first low).mpr up,
      (leadsOn_iff far up).mpr leads⟩
  obtain ⟨next, located⟩ := Option.isSome_iff_exists.mp found
  exact ⟨next, (find?_leadsOn_eq_some_iff far next).mp located⟩

/-- The line towards an ancestor is the one through the next person up. -/
theorem lineTowards_ofRecords {low top next : PersonId} {distance : Nat} {person : Person}
    (above : IsAncestorAt (KeptLink people edges) low top distance)
    (way : IsNextUp (KeptLink people edges) low top distance next)
    (record : LastRecord people next person) :
    (Snapshot.ofRecords people edges).lineTowards low top distance =
      Line.throughParent person.sex := by
  -- The search finds the next person up, and that person's last record gives the sex.
  obtain ⟨rest, rfl, far⟩ := above.exists_succ
  have search := (find?_leadsOn_eq_some_iff far next).mpr way
  have located := (Snapshot.person?_eq_some_iff people next person).mpr record
  rw [Snapshot.lineTowards_succ, Snapshot.ofRecords]
  simp only [search, located, Option.bind_some]

/-- Somebody who is not recorded is related to nobody. -/
theorem classify_of_unknown {a b : PersonId}
    (stranger : a ∉ people.map Person.id ∨ b ∉ people.map Person.id) :
    classify options people edges a b = .notFound := by
  -- One of the two searches for a record comes back empty.
  rw [classify]
  rcases stranger with unknown | unknown
  · rw [(Snapshot.person?_eq_none_iff people a).mpr unknown]
  · rw [(Snapshot.person?_eq_none_iff people b).mpr unknown]
    cases Snapshot.person? people a <;> rfl

/-- A recorded person is the same as himself or herself. -/
theorem classify_self {a : PersonId} (known : a ∈ people.map Person.id) :
    classify options people edges a a = .samePerson := by
  obtain ⟨person, record⟩ := exists_lastRecord known
  simp [classify, (Snapshot.person?_eq_some_iff people a person).mpr record]

variable {a b : PersonId} {personA personB : Person}

/-- Where the first person is an ancestor of the second, nothing else is looked for. -/
theorem classify_of_ancestor (recordA : LastRecord people a personA)
    (recordB : LastRecord people b personB) {distance : Nat}
    (above : IsAncestorAt (KeptLink people edges) b a distance) :
    classify options people edges a b =
      (Snapshot.ofRecords people edges).directLine options personA personB distance true := by
  simp [classify, (Snapshot.person?_eq_some_iff people a personA).mpr recordA,
    (Snapshot.person?_eq_some_iff people b personB).mpr recordB, above.1, Snapshot.ofRecords,
    (get?_ancestorDistances_ofRecords b a distance).mpr above]

/-- Where only the second person is an ancestor of the first, that makes the direct line. -/
theorem classify_of_descendant (recordA : LastRecord people a personA)
    (recordB : LastRecord people b personB)
    (notAbove : ∀ distance, ¬IsAncestorAt (KeptLink people edges) b a distance) {distance : Nat}
    (below : IsAncestorAt (KeptLink people edges) a b distance) :
    classify options people edges a b =
      (Snapshot.ofRecords people edges).directLine options personB personA distance false := by
  simp [classify, (Snapshot.person?_eq_some_iff people a personA).mpr recordA,
    (Snapshot.person?_eq_some_iff people b personB).mpr recordB, below.1.symm, Snapshot.ofRecords,
    get?_ancestorDistances_eq_none notAbove,
    (get?_ancestorDistances_ofRecords a b distance).mpr below]

/-- Two people of whom neither is an ancestor of the other are classified by what the ancestors of both
resolve to. -/
theorem classify_of_apart (recordA : LastRecord people a personA)
    (recordB : LastRecord people b personB) (differ : a ≠ b)
    (notAbove : ∀ distance, ¬IsAncestorAt (KeptLink people edges) b a distance)
    (notBelow : ∀ distance, ¬IsAncestorAt (KeptLink people edges) a b distance) :
    classify options people edges a b =
      (CommonAncestor.resolve? ((KinTable.ofRecords people edges).ancestorDistances a)
        ((KinTable.ofRecords people edges).ancestorDistances b)).elim .notFound
          ((Snapshot.ofRecords people edges).collateral options personA personB) := by
  -- Neither is found above the other, so the last question remains.
  simp only [classify, (Snapshot.person?_eq_some_iff people a personA).mpr recordA,
    (Snapshot.person?_eq_some_iff people b personB).mpr recordB, if_neg differ, Snapshot.ofRecords,
    get?_ancestorDistances_eq_none notAbove, get?_ancestorDistances_eq_none notBelow]
  cases CommonAncestor.resolve? ((KinTable.ofRecords people edges).ancestorDistances a)
      ((KinTable.ofRecords people edges).ancestorDistances b) with
  | none => rfl
  | some common => rfl

/-- With a nearest common ancestor the two are collateral relatives. -/
theorem classify_of_common (recordA : LastRecord people a personA)
    (recordB : LastRecord people b personB) (differ : a ≠ b)
    (notAbove : ∀ distance, ¬IsAncestorAt (KeptLink people edges) b a distance)
    (notBelow : ∀ distance, ¬IsAncestorAt (KeptLink people edges) a b distance)
    {common : PersonId} {k l : Nat}
    (nearest : IsNearestCommon (KeptLink people edges) a b common k l) :
    classify options people edges a b =
      (Snapshot.ofRecords people edges).collateral options personA personB ⟨common, k, l⟩ := by
  rw [classify_of_apart recordA recordB differ notAbove notBelow,
    (resolve?_ofRecords a b ⟨common, k, l⟩).mpr nearest, Option.elim_some]

/-- Without a common ancestor they are not related. -/
theorem classify_of_unrelated (knownA : a ∈ people.map Person.id)
    (knownB : b ∈ people.map Person.id) (differ : a ≠ b)
    (notAbove : ∀ distance, ¬IsAncestorAt (KeptLink people edges) b a distance)
    (notBelow : ∀ distance, ¬IsAncestorAt (KeptLink people edges) a b distance)
    (apart : ∀ common k l, IsAncestorAt (KeptLink people edges) a common k →
      ¬IsAncestorAt (KeptLink people edges) b common l) :
    classify options people edges a b = .notFound := by
  -- Nothing is a candidate for the nearest common ancestor.
  obtain ⟨personA, recordA⟩ := exists_lastRecord knownA
  obtain ⟨personB, recordB⟩ := exists_lastRecord knownB
  rw [classify_of_apart recordA recordB differ notAbove notBelow,
    (CommonAncestor.resolve?_eq_none_iff _ _).mpr, Option.elim_none]
  intro common member
  obtain ⟨aboveA, aboveB⟩ := (mem_candidates_ofRecords a b common).mp member
  exact apart common.id _ _ aboveA aboveB

end Kindred
