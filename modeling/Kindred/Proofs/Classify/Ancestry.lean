import Kindred.Proofs.Classify.Snapshot
import Kindred.Proofs.Pedigree.Locality
import Mathlib.Data.List.Find

/-! A classification depends on the records of the two people and of their ancestors, and on nobody else's. -/

namespace Kindred

/-- The name and the sex that are recorded last under an identifier. -/
def lastDetails (people : List Person) (id : PersonId) : Option (String × Sex) :=
  (Snapshot.person? people id).map fun person => (person.name, person.sex)

/-- A person without the note. -/
def Person.withoutNote (person : Person) : Person :=
  { person with note := none }

/-- The last record of an identifier is known from its details, but for the note. -/
theorem map_withoutNote_person? (people : List Person) (id : PersonId) :
    (Snapshot.person? people id).map Person.withoutNote =
      (lastDetails people id).map fun details => ⟨id, details.1, details.2, none⟩ := by
  -- A record that is found has the identifier.
  rw [lastDetails]
  cases found : Snapshot.person? people id with
  | none => rfl
  | some person =>
    obtain ⟨named, _⟩ := (Snapshot.person?_eq_some_iff people id person).mp found
    simp [Person.withoutNote, named]

namespace Snapshot

/-- A name is one of the details. -/
theorem nameOf_eq (snapshot : Snapshot) (id : PersonId) :
    snapshot.nameOf id = ((lastDetails snapshot.people id).map Prod.fst).getD id.text := by
  rw [nameOf, lastDetails, Option.map_map]
  rfl

/-- A side of the family is told from the details. -/
theorem lineThrough_eq (people : List Person) (id : PersonId) :
    ((person? people id).bind fun person => Line.throughParent person.sex) =
      (lastDetails people id).bind fun details => Line.throughParent details.2 := by
  rw [lastDetails, Option.bind_map]
  rfl

/-- Two snapshots show the same parents and the same details inside a group that holds the parents of its
members. -/
structure AgreeOn (inside : PersonId → Prop) (first second : Snapshot) : Prop where
  tables : first.table.AgreeOn inside second.table
  details : ∀ id, inside id → lastDetails first.people id = lastDetails second.people id

namespace AgreeOn

variable {inside : PersonId → Prop} {first second : Snapshot} {options : ClassifyOptions}

/-- Inside the group names are the same. -/
theorem nameOf (agree : AgreeOn inside first second) {id : PersonId} (here : inside id) :
    first.nameOf id = second.nameOf id := by
  rw [nameOf_eq, nameOf_eq, agree.details id here]

/-- From inside the group the same parent leads on to an ancestor, and shows the same line. -/
theorem lineTowards (agree : AgreeOn inside first second) {low : PersonId} (here : inside low)
    (top : PersonId) (distance : Nat) :
    first.lineTowards low top distance = second.lineTowards low top distance := by
  cases distance with
  | zero => rfl
  | succ rest =>
    -- The parents who are asked are inside, and so is the one who is found.
    have asked : ∀ up ∈ first.table.parents low, inside up := agree.tables.closed low here
    have leads : (first.table.parents low).find? (first.table.leadsOn top rest) =
        (first.table.parents low).find? (second.table.leadsOn top rest) := by
      refine List.find?_congr fun up member => ?_
      rw [KinTable.leadsOn, KinTable.leadsOn, agree.tables.ancestorDistances (asked up member)]
    rw [lineTowards_succ, lineTowards_succ, ← agree.tables.same low here, ← leads]
    refine Option.bind_congr fun up found => ?_
    rw [lineThrough_eq, lineThrough_eq, agree.details up (asked up (List.mem_of_find?_eq_some found))]

/-- From inside the group the same chain is shown, with the same names. -/
theorem pathEvidence (agree : AgreeOn inside first second) {low : PersonId} (here : inside low)
    (top : PersonId) : first.pathEvidence options low top = second.pathEvidence options low top := by
  rw [Snapshot.pathEvidence, Snapshot.pathEvidence, ← agree.tables.ancestryPath here]
  cases found : first.table.ancestryPath low top options.maxPathDepth with
  | none => rfl
  | some path =>
    -- Everybody on the chain is inside.
    have names : path.map first.nameOf = path.map second.nameOf :=
      List.map_congr_left fun id member =>
        agree.nameOf (agree.tables.inside_of_mem_ancestryPath here found id member)
    simp only [Option.map_some, pathNote, names]

/-- A direct line up from somebody inside is told the same, whatever the notes of the two are. -/
theorem directLine (agree : AgreeOn inside first second) {ancestor ancestor' descendant descendant' : Person}
    (sameAncestor : ancestor.withoutNote = ancestor'.withoutNote)
    (sameDescendant : descendant.withoutNote = descendant'.withoutNote) (here : inside descendant.id)
    (distance : Nat) (aIsAncestor : Bool) :
    first.directLine options ancestor descendant distance aIsAncestor =
      second.directLine options ancestor' descendant' distance aIsAncestor := by
  -- Only the identifiers, the names and the sexes of the two are used.
  have unnoted : ∀ snapshot : Snapshot, ∀ above below : Person,
      snapshot.directLine options above below distance aIsAncestor =
        snapshot.directLine options above.withoutNote below.withoutNote distance aIsAncestor :=
    fun _ _ _ => rfl
  rw [unnoted second, ← sameAncestor, ← sameDescendant, ← unnoted second]
  simp only [Snapshot.directLine, agree.lineTowards here, agree.pathEvidence here]

/-- The branch up from somebody inside is told the same. -/
theorem branchEvidence (agree : AgreeOn inside first second) {person : Person} (here : inside person.id)
    (top : PersonId) (distance : Nat) :
    first.branchEvidence options person top distance =
      second.branchEvidence options person top distance := by
  rw [Snapshot.branchEvidence, Snapshot.branchEvidence, agree.pathEvidence here, agree.lineTowards here]

/-- Collateral relatives inside are told the same, whatever their notes are. -/
theorem collateral (agree : AgreeOn inside first second) {a a' b b' : Person}
    (sameA : a.withoutNote = a'.withoutNote) (sameB : b.withoutNote = b'.withoutNote) (hereA : inside a.id)
    (hereB : inside b.id) {common : CommonAncestor} (hereCommon : inside common.id) :
    first.collateral options a b common = second.collateral options a' b' common := by
  have unnoted : ∀ snapshot : Snapshot, ∀ one other : Person,
      snapshot.collateral options one other common =
        snapshot.collateral options one.withoutNote other.withoutNote common :=
    fun _ _ _ => rfl
  rw [unnoted second, ← sameA, ← sameB, ← unnoted second]
  simp only [Snapshot.collateral, agree.nameOf hereCommon, agree.branchEvidence hereA,
    agree.branchEvidence hereB]

/-- Under an identifier inside, both snapshots record nobody, or the same person but for the note. -/
theorem person? (agree : AgreeOn inside first second) {id : PersonId} (here : inside id) :
    (Snapshot.person? first.people id).map Person.withoutNote =
      (Snapshot.person? second.people id).map Person.withoutNote := by
  rw [map_withoutNote_person?, map_withoutNote_person?, agree.details id here]

end AgreeOn

end Snapshot

/-- Whom a snapshot shows above two people, and what it says of them, decides the classification. -/
theorem classify_eq_of_agreeOn (options : ClassifyOptions) {inside : PersonId → Prop}
    {people people' : List Person} {edges edges' : List ParentEdge} {a b : PersonId}
    (agree : Snapshot.AgreeOn inside (Snapshot.ofRecords people edges) (Snapshot.ofRecords people' edges'))
    (hereA : inside a) (hereB : inside b) :
    classify options people edges a b = classify options people' edges' a b := by
  -- Each of the two is recorded in both snapshots or in neither.
  have recordA := agree.person? hereA
  have recordB := agree.person? hereB
  simp only [Snapshot.ofRecords] at recordA recordB
  rw [classify, classify]
  cases foundA : Snapshot.person? people a with
  | none =>
    rw [foundA, Option.map_none, eq_comm, Option.map_eq_none_iff] at recordA
    simp only [recordA]
  | some personA =>
    rw [foundA, Option.map_some, eq_comm, Option.map_eq_some_iff] at recordA
    obtain ⟨personA', foundA', sameA⟩ := recordA
    cases foundB : Snapshot.person? people b with
    | none =>
      rw [foundB, Option.map_none, eq_comm, Option.map_eq_none_iff] at recordB
      simp only [foundA', recordB]
    | some personB =>
      rw [foundB, Option.map_some, eq_comm, Option.map_eq_some_iff] at recordB
      obtain ⟨personB', foundB', sameB⟩ := recordB
      obtain ⟨namedA, _⟩ := (Snapshot.person?_eq_some_iff people a personA).mp foundA
      obtain ⟨namedB, _⟩ := (Snapshot.person?_eq_some_iff people b personB).mp foundB
      -- Both snapshots tell the same distances, so they take the same branch.
      have distancesA := agree.tables.ancestorDistances hereA
      have distancesB := agree.tables.ancestorDistances hereB
      simp only [foundA', foundB', ← distancesA, ← distancesB]
      split
      · rfl
      · split
        · exact agree.directLine sameA.symm sameB.symm (namedB ▸ hereB) _ true
        · split
          · exact agree.directLine sameB.symm sameA.symm (namedA ▸ hereA) _ false
          · split
            · rename_i common resolved
              obtain ⟨candidate, _⟩ := (CommonAncestor.resolve?_eq_some_iff _ _ common).mp resolved
              obtain ⟨aboveA, _⟩ := (CommonAncestor.mem_candidates_iff _ _ common).mp candidate
              exact agree.collateral sameA.symm sameB.symm (namedA ▸ hereA) (namedB ▸ hereB)
                (agree.tables.inside_of_get?_ancestorDistances hereA aboveA)
            · rfl

/-- Somebody is one of two people or an ancestor of one of them. -/
def InAncestry (people : List Person) (edges : List ParentEdge) (a b id : PersonId) : Prop :=
  -- A chain without steps leads to each of the two.
  ∃ steps, Ascends (KeptLink people edges) steps a id ∨ Ascends (KeptLink people edges) steps b id

/-- Records agree with other ones on two people and on all their ancestors: the last name and sex of each, if
there is any, and the parents by kept links. -/
structure SameAncestry (people : List Person) (edges : List ParentEdge) (people' : List Person)
    (edges' : List ParentEdge) (a b : PersonId) : Prop where
  details : ∀ id, InAncestry people edges a b id → lastDetails people id = lastDetails people' id
  parents : ∀ id, InAncestry people edges a b id →
    ∀ parent, KeptLink people edges parent id ↔ KeptLink people' edges' parent id

/-- Such records show the same inside the ancestry. -/
theorem SameAncestry.agreeOn {people people' : List Person} {edges edges' : List ParentEdge}
    {a b : PersonId} (same : SameAncestry people edges people' edges' a b) :
    Snapshot.AgreeOn (InAncestry people edges a b) (Snapshot.ofRecords people edges)
      (Snapshot.ofRecords people' edges') := by
  have first := KinTable.describes_ofRecords people edges
  have second := KinTable.describes_ofRecords people' edges'
  refine ⟨⟨fun id here up isParent => ?_, fun id here => ?_⟩, same.details⟩
  · -- A parent of somebody in the ancestry is one step further up.
    have link := (first.parents up id).mp isParent
    obtain ⟨steps, chain⟩ := here
    exact ⟨steps + 1, chain.imp (·.step link) (·.step link)⟩
  · -- Both rows are increasing lists of the same parents.
    refine eq_of_increasing_of_mem (first.parentsIncreasing id) (second.parentsIncreasing id) fun up => ?_
    exact (first.parents up id).trans ((same.parents id here up).trans (second.parents up id).symm)

section Records

variable {people people' : List Person} {edges edges' : List ParentEdge} {a b : PersonId}

/-- A list of people that holds the two and, with each member, the parents of that member holds the whole
ancestry. -/
theorem InAncestry.mem_of_closed {among : List PersonId} (hereA : a ∈ among) (hereB : b ∈ among)
    (closed : ∀ id ∈ among, ∀ up ∈ (KinTable.ofRecords people edges).parents id, up ∈ among)
    {id : PersonId} (inAncestry : InAncestry people edges a b id) : id ∈ among := by
  -- No chain of parents leaves the list.
  have stays : ∀ {steps low top}, Ascends (KeptLink people edges) steps low top → low ∈ among →
      top ∈ among := by
    intro steps low top chain here
    induction chain with
    | refl => exact here
    | step _ up ih =>
      exact closed _ (ih here) _ (((KinTable.describes_ofRecords people edges).parents _ _).mpr up)
  obtain ⟨steps, fromA | fromB⟩ := inAncestry
  · exact stays fromA hereA
  · exact stays fromB hereB

/-- To see that records agree on an ancestry it is enough to go through such a list. -/
theorem sameAncestry_of_closed (among : List PersonId) (hereA : a ∈ among) (hereB : b ∈ among)
    (closed : ∀ id ∈ among, ∀ up ∈ (KinTable.ofRecords people edges).parents id, up ∈ among)
    (details : ∀ id ∈ among, lastDetails people id = lastDetails people' id)
    (parents : ∀ id ∈ among, (KinTable.ofRecords people edges).parents id =
      (KinTable.ofRecords people' edges').parents id) :
    SameAncestry people edges people' edges' a b := by
  refine ⟨fun id here => details id (here.mem_of_closed hereA hereB closed), fun id here up => ?_⟩
  rw [← (KinTable.describes_ofRecords people edges).parents,
    ← (KinTable.describes_ofRecords people' edges').parents,
    parents id (here.mem_of_closed hereA hereB closed)]

/-- Among people with different identifiers everybody is the last record. -/
theorem person?_eq_some_iff_mem (distinct : (people.map Person.id).Nodup) (id : PersonId)
    (person : Person) :
    Snapshot.person? people id = some person ↔ person ∈ people ∧ person.id = id := by
  rw [Snapshot.person?_eq_some_iff, LastRecord]
  constructor
  · rintro ⟨named, before, after, rfl, _⟩
    exact ⟨by simp, named⟩
  · rintro ⟨member, named⟩
    obtain ⟨before, after, rfl⟩ := List.append_of_mem member
    refine ⟨named, before, after, rfl, fun other later same => ?_⟩
    -- A second record of the identifier would repeat it.
    rw [List.map_append, List.map_cons, List.nodup_append] at distinct
    have new := (List.nodup_cons.mp distinct.2.1).1
    exact new (List.mem_map.mpr ⟨other, later, same.trans named.symm⟩)

/-- Where identifiers are different, the order of the people does not matter to the details. -/
theorem lastDetails_of_perm (reordered : people'.Perm people) (distinct : (people.map Person.id).Nodup)
    (id : PersonId) : lastDetails people id = lastDetails people' id := by
  have distinct' : (people'.map Person.id).Nodup := (reordered.map Person.id).nodup_iff.mpr distinct
  have same : Snapshot.person? people id = Snapshot.person? people' id := by
    ext person
    rw [person?_eq_some_iff_mem distinct, person?_eq_some_iff_mem distinct', reordered.mem_iff]
  rw [lastDetails, same, lastDetails]

/-- The notes do not matter to the details. -/
theorem lastDetails_withoutNote (people : List Person) (id : PersonId) :
    lastDetails (people.map Person.withoutNote) id = lastDetails people id := by
  rw [lastDetails, lastDetails, Snapshot.person?, Snapshot.person?, ← List.map_reverse, List.find?_map,
    Option.map_map]
  rfl

end Records

/-- Of two people only the ancestry matters: records that agree on it give the same classification, the evidence
included. So nothing depends on the order of people with different identifiers, on the notes, or on the order,
the number and the presence of links beyond the kept ones. -/
theorem classify_eq_of_sameAncestry (options : ClassifyOptions) (people : List Person)
    (edges : List ParentEdge) (a b : PersonId) :
    (∀ people' edges', SameAncestry people edges people' edges' a b →
      classify options people' edges' a b = classify options people edges a b) ∧
    (∀ people', people'.Perm people → (people.map Person.id).Nodup →
      classify options people' edges a b = classify options people edges a b) ∧
    (∀ edges', (∀ edge : ParentEdge, edge.parent ≠ edge.child → edge.parent ∈ people.map Person.id →
        edge.child ∈ people.map Person.id → (edge ∈ edges' ↔ edge ∈ edges)) →
      classify options people edges' a b = classify options people edges a b) ∧
    (∀ people', people'.map Person.withoutNote = people.map Person.withoutNote →
      classify options people' edges a b = classify options people edges a b) := by
  have decides : ∀ people' edges', SameAncestry people edges people' edges' a b →
      classify options people' edges' a b = classify options people edges a b := by
    intro people' edges' same
    -- Each of the two is in the ancestry by the chain without steps.
    exact (classify_eq_of_agreeOn options same.agreeOn ⟨0, Or.inl (.refl a)⟩ ⟨0, Or.inr (.refl b)⟩).symm
  refine ⟨decides, fun people' reordered distinct => ?_, fun edges' same => ?_, fun people' same => ?_⟩
  · have known : ∀ id, id ∈ people.map Person.id ↔ id ∈ people'.map Person.id :=
      fun id => (reordered.map Person.id).mem_iff.symm
    exact decides people' edges ⟨fun id _ => lastDetails_of_perm reordered distinct id,
      fun id _ parent => keptLink_congr known (fun _ _ _ _ => Iff.rfl) parent id⟩
  · exact decides people edges' ⟨fun _ _ => rfl,
      fun id _ parent => keptLink_congr (fun _ => Iff.rfl) same parent id⟩
  · -- The identifiers are those of the people without their notes.
    have ids : people.map Person.id = people'.map Person.id := by
      have unnoted := congrArg (List.map Person.id) same.symm
      rwa [List.map_map, List.map_map] at unnoted
    refine decides people' edges ⟨fun id _ => ?_, fun id _ parent => ?_⟩
    · rw [← lastDetails_withoutNote people, ← same, lastDetails_withoutNote]
    · exact keptLink_congr (fun other => by rw [ids]) (fun _ _ _ _ => Iff.rfl) parent id

/-- Two siblings stay what they are, whatever is recorded of a child and a husband of one of them, of a stranger
who gets their father's place on the list, and of links that join nobody. -/
theorem classify_eq_of_sameAncestry_beside_others :
    let people : List Person := [⟨⟨"a"⟩, "Анна", .female, none⟩, ⟨⟨"b"⟩, "Борис", .male, none⟩,
      ⟨⟨"m"⟩, "Мария", .female, none⟩, ⟨⟨"f"⟩, "Фёдор", .male, some "отец"⟩]
    let edges : List ParentEdge := [⟨⟨"m"⟩, ⟨"a"⟩⟩, ⟨⟨"f"⟩, ⟨"a"⟩⟩, ⟨⟨"m"⟩, ⟨"b"⟩⟩, ⟨⟨"f"⟩, ⟨"b"⟩⟩]
    let people' : List Person := [⟨⟨"m"⟩, "Мария", .female, some "мать"⟩, ⟨⟨"s"⟩, "Семён", .male, none⟩,
      ⟨⟨"c"⟩, "Вера", .female, none⟩, ⟨⟨"h"⟩, "Иван", .male, none⟩, ⟨⟨"f"⟩, "Фёдор", .male, none⟩,
      ⟨⟨"b"⟩, "Борис", .male, none⟩, ⟨⟨"a"⟩, "Анна", .female, none⟩]
    let edges' : List ParentEdge := [⟨⟨"h"⟩, ⟨"c"⟩⟩, ⟨⟨"a"⟩, ⟨"c"⟩⟩, ⟨⟨"f"⟩, ⟨"b"⟩⟩, ⟨⟨"f"⟩, ⟨"a"⟩⟩,
      ⟨⟨"m"⟩, ⟨"b"⟩⟩, ⟨⟨"m"⟩, ⟨"a"⟩⟩, ⟨⟨"m"⟩, ⟨"b"⟩⟩, ⟨⟨"x"⟩, ⟨"a"⟩⟩, ⟨⟨"b"⟩, ⟨"b"⟩⟩]
    SameAncestry people edges people' edges' ⟨"a"⟩ ⟨"b"⟩ ∧
      classify {} people' edges' ⟨"a"⟩ ⟨"b"⟩ = classify {} people edges ⟨"a"⟩ ⟨"b"⟩ ∧
      classify {} people.reverse edges ⟨"a"⟩ ⟨"b"⟩ = classify {} people edges ⟨"a"⟩ ⟨"b"⟩ ∧
      classify {} people (edges ++ edges.reverse) ⟨"a"⟩ ⟨"b"⟩ = classify {} people edges ⟨"a"⟩ ⟨"b"⟩ ∧
      classify {} (people.map Person.withoutNote) edges ⟨"a"⟩ ⟨"b"⟩ =
        classify {} people edges ⟨"a"⟩ ⟨"b"⟩ := by
  intro people edges people' edges'
  have same : SameAncestry people edges people' edges' ⟨"a"⟩ ⟨"b"⟩ :=
    sameAncestry_of_closed [⟨"a"⟩, ⟨"b"⟩, ⟨"m"⟩, ⟨"f"⟩] (by decide) (by decide) (by decide)
      (by decide) (by decide)
  obtain ⟨decides, reorders, repeats, renotes⟩ :=
    classify_eq_of_sameAncestry {} people edges ⟨"a"⟩ ⟨"b"⟩
  refine ⟨same, decides people' edges' same, reorders people.reverse people.reverse_perm (by decide), ?_, ?_⟩
  · exact repeats (edges ++ edges.reverse) fun edge _ _ _ => by simp
  · exact renotes (people.map Person.withoutNote) (by decide)

end Kindred
