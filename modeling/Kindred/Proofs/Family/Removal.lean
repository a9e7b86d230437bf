import Kindred.Proofs.Classify.Ancestry
import Kindred.Proofs.Family.Editing
import Kindred.Proofs.Pedigree.Cycles

/-! Whoever is removed from a family goes with all links that touch that person, and nothing else goes: the others keep
their records, their other relatives and what they are to each other. -/

namespace Kindred

section Records

variable (people : List Person) (edges : List ParentEdge) {id : PersonId}

/-- Without one identifier and its links, the kept links are those that do not touch it. -/
theorem keptLink_filter_iff (parent child : PersonId) :
    KeptLink (people.filter fun person => person.id ≠ id) (edges.filter fun edge => !edge.touches id) parent child ↔
      KeptLink people edges parent child ∧ parent ≠ id ∧ child ≠ id := by
  -- Everybody with another identifier is there still.
  have known : ∀ other, other ∈ (people.filter fun person => person.id ≠ id).map Person.id ↔
      other ∈ people.map Person.id ∧ other ≠ id := by
    intro other
    simp only [List.mem_map, List.mem_filter, decide_eq_true_eq]
    constructor
    · rintro ⟨person, ⟨member, differ⟩, rfl⟩
      exact ⟨⟨person, member, rfl⟩, differ⟩
    · rintro ⟨⟨person, member, rfl⟩, differ⟩
      exact ⟨person, ⟨member, differ⟩, rfl⟩
  constructor
  · intro link
    obtain ⟨parentKnown, parentOther⟩ := (known parent).mp link.parentKnown
    obtain ⟨childKnown, childOther⟩ := (known child).mp link.childKnown
    exact ⟨⟨link.differ, parentKnown, childKnown, (List.mem_filter.mp link.recorded).1⟩, parentOther, childOther⟩
  · intro kept
    obtain ⟨link, parentOther, childOther⟩ := kept
    have parentKnown := (known parent).mpr ⟨link.parentKnown, parentOther⟩
    have childKnown := (known child).mpr ⟨link.childKnown, childOther⟩
    refine ⟨link.differ, parentKnown, childKnown, List.mem_filter.mpr ⟨link.recorded, ?_⟩⟩
    -- A link between two others does not touch the one left out.
    simp [ParentEdge.touches, parentOther, childOther]

/-- Without one identifier, the details under the others are the same. -/
theorem lastDetails_filter {other : PersonId} (differ : other ≠ id) :
    lastDetails (people.filter fun person => person.id ≠ id) other = lastDetails people other := by
  -- Whoever is left out is not searched for.
  have same : ∀ person : Person,
      (decide (person.id ≠ id) && decide (person.id = other)) = decide (person.id = other) := by
    intro person
    rw [Bool.and_eq_right_iff_imp]
    intro named
    rw [decide_eq_true_eq] at named ⊢
    exact named ▸ differ
  rw [lastDetails, lastDetails, Snapshot.person?, Snapshot.person?, ← List.filter_reverse, List.find?_filter]
  simp only [Bool.decide_and, Bool.decide_eq_true, same]

variable {a b : PersonId}

/-- Two people who do not descend from somebody have the same ancestry without that one. -/
theorem sameAncestry_filter (apart : ¬InAncestry people edges a b id) :
    SameAncestry people edges (people.filter fun person => person.id ≠ id)
      (edges.filter fun edge => !edge.touches id) a b := by
  have others : ∀ other, InAncestry people edges a b other → other ≠ id := fun other here same => apart (same ▸ here)
  refine ⟨fun other here => (lastDetails_filter people (others other here)).symm, fun child here parent => ?_⟩
  rw [keptLink_filter_iff]
  constructor
  · -- A parent of somebody in the ancestry is in it as well.
    intro link
    obtain ⟨steps, chain⟩ := here
    have above : InAncestry people edges a b parent := ⟨steps + 1, chain.imp (·.step link) (·.step link)⟩
    exact ⟨link, others parent above, others child ⟨steps, chain⟩⟩
  · exact And.left

end Records

namespace FamilyTree

variable {tree : FamilyTree} {id other : PersonId}

/-- A tree without an identifier and the links that touch it. -/
def without (tree : FamilyTree) (id : PersonId) : FamilyTree :=
  { tree with
    persons := tree.persons.filter fun person => person.id ≠ id
    edges := tree.edges.filter fun edge => !edge.touches id }

/-- Where identifiers are different, the first person with one is the only one. -/
theorem eraseP_eq_filter {persons : List Person} (distinct : (persons.map Person.id).Nodup)
    (known : id ∈ persons.map Person.id) :
    (persons.eraseP fun person => person.id = id) = persons.filter fun person => person.id ≠ id := by
  obtain ⟨before, person, after, stands⟩ := StandsFirst.of_mem known
  rw [stands.eraseP_eq]
  obtain ⟨rfl, rfl, first⟩ := stands
  -- Nobody before and nobody after has the identifier.
  rw [List.map_append, List.map_cons, List.nodup_append] at distinct
  have last : person.id ∉ after.map Person.id := (List.nodup_cons.mp distinct.2.1).1
  have stay : ∀ others : List Person, person.id ∉ others.map Person.id →
      others.filter (fun other => other.id ≠ person.id) = others := by
    intro others absent
    refine List.filter_eq_self.mpr fun other member => decide_eq_true fun same => absent ?_
    exact same ▸ List.mem_map_of_mem member
  rw [List.filter_append, List.filter_cons_of_neg (by simp), stay before first, stay after last]

/-- Where identifiers are different, removing a person gives that person and the tree without the identifier. -/
theorem removePerson_eq_without (distinct : tree.known.Nodup) {person : Person}
    (found : tree.person? id = some person) :
    tree.removePerson id = (some person, tree.without id) := by
  have known : id ∈ tree.known := (contains_iff tree id).mp (Option.isSome_of_eq_some found)
  rw [removePerson, found]
  simp only [without, eraseP_eq_filter distinct known]

/-- Nobody is found under the identifier that is left out. -/
theorem person?_without_self (tree : FamilyTree) (id : PersonId) : (tree.without id).person? id = none := by
  rw [person?, List.find?_eq_none]
  intro person member
  simpa using (List.mem_filter.mp member).2

/-- Under every other identifier the same person is found. -/
theorem person?_without (differ : other ≠ id) : (tree.without id).person? other = tree.person? other := by
  rw [person?, person?, without, List.find?_filter]
  congr 1
  funext person
  -- Whoever has the one identifier does not have the other.
  by_cases named : person.id = other
  · simp [named, differ]
  · simp [named]

/-- Whoever is left is somebody else of the tree. -/
theorem mem_known_without_iff (tree : FamilyTree) (id other : PersonId) :
    other ∈ (tree.without id).known ↔ other ∈ tree.known ∧ other ≠ id := by
  rw [← contains_iff, ← contains_iff, contains, contains]
  by_cases same : other = id
  · subst same
    simp [person?_without_self]
  · simp [person?_without same, same]

/-- Everybody else has the same parents, in the same order, but for the one left out. -/
theorem parentsOf_without (differ : other ≠ id) :
    (tree.without id).parentsOf other = (tree.parentsOf other).filter fun parent => parent ≠ id := by
  have before := KinTable.describes_ofRecords tree.persons tree.edges
  have after := KinTable.describes_ofRecords (tree.without id).persons (tree.without id).edges
  -- Both rows are increasing, and they have the same members.
  refine eq_of_increasing_of_mem (after.parentsIncreasing other) ((before.parentsIncreasing other).filter _) ?_
  intro parent
  rw [parentsOf, table, after.parents, List.mem_filter, parentsOf, table, before.parents, without, keptLink_filter_iff]
  simp [differ]

/-- Everybody else has the same children, in the same order, but for the one left out. -/
theorem childrenOf_without (differ : other ≠ id) :
    (tree.without id).childrenOf other = (tree.childrenOf other).filter fun child => child ≠ id := by
  have before := KinTable.describes_ofRecords tree.persons tree.edges
  have after := KinTable.describes_ofRecords (tree.without id).persons (tree.without id).edges
  refine eq_of_increasing_of_mem (after.childrenIncreasing other) ((before.childrenIncreasing other).filter _) ?_
  intro child
  rw [childrenOf, table, after.children, List.mem_filter, childrenOf, table, before.children, without,
    keptLink_filter_iff]
  simp [differ]

/-- Two other people who do not descend from the one left out are to each other what they were. -/
theorem classify_without (options : ClassifyOptions) {a b : PersonId} (differA : a ≠ id) (differB : b ≠ id)
    (apartA : id ∉ (tree.table.ancestorDistances a).keys) (apartB : id ∉ (tree.table.ancestorDistances b).keys) :
    (tree.without id).classify options a b = tree.classify options a b := by
  -- The one left out is not in the ancestry of the two.
  have apart : ¬InAncestry tree.persons tree.edges a b id := by
    intro here
    obtain ⟨steps, fromA | fromB⟩ := here
    · exact apartA ((KinTable.mem_keys_iff_ascends tree.persons tree.edges a id).mpr ⟨differA.symm, steps, fromA⟩)
    · exact apartB ((KinTable.mem_keys_iff_ascends tree.persons tree.edges b id).mpr ⟨differB.symm, steps, fromB⟩)
  have same := (sameAncestry_filter tree.persons tree.edges apart).agreeOn
  exact (classify_eq_of_agreeOn options same ⟨0, Or.inl (.refl a)⟩ ⟨0, Or.inr (.refl b)⟩).symm

/-- A link with the one left out is refused, whoever else it joins. -/
theorem addEdge_without (present : other ∈ (tree.without id).known) :
    (tree.without id).addEdge id other = .error (.unknownPerson id) ∧
      (tree.without id).addEdge other id = .error (.unknownPerson id) := by
  have gone : id ∉ (tree.without id).known := by simp [mem_known_without_iff]
  have differ : other ≠ id := ((mem_known_without_iff tree id other).mp present).2
  constructor
  · exact addEdge_eq_error_iff.mpr (Or.inr ⟨differ.symm, Or.inl ⟨gone, rfl⟩⟩)
  · exact addEdge_eq_error_iff.mpr (Or.inr ⟨differ, Or.inr ⟨present, gone, rfl⟩⟩)

/-- After a removal one person is gone with the links that touch that person, and nothing else is gone or changed. -/
structure RemovesOnly (tree : FamilyTree) (id : PersonId) (after : FamilyTree) : Prop where
  persons : after.persons = tree.persons.filter fun person => person.id ≠ id
  edges : after.edges = tree.edges.filter fun edge => edge.parent ≠ id ∧ edge.child ≠ id
  ids : after.ids = tree.ids
  unknown : after.person? id = none
  records : ∀ other, other ≠ id → after.person? other = tree.person? other
  parents : ∀ other, other ≠ id → after.parentsOf other = (tree.parentsOf other).filter fun parent => parent ≠ id
  children : ∀ other, other ≠ id → after.childrenOf other = (tree.childrenOf other).filter fun child => child ≠ id
  kinship : ∀ options a b, a ≠ id → b ≠ id → id ∉ (tree.table.ancestorDistances a).keys →
    id ∉ (tree.table.ancestorDistances b).keys → after.classify options a b = tree.classify options a b
  refused : ∀ other ∈ after.known, after.addEdge id other = .error (.unknownPerson id) ∧
    after.addEdge other id = .error (.unknownPerson id)

/-- Leaving an identifier out takes nothing else away. -/
theorem removesOnly_without (tree : FamilyTree) (id : PersonId) : tree.RemovesOnly id (tree.without id) where
  persons := rfl
  edges := by
    -- A link touches somebody with one end or the other.
    refine List.filter_congr fun edge _ => ?_
    rw [Bool.eq_iff_iff]
    simp [ParentEdge.touches]
  ids := rfl
  unknown := person?_without_self tree id
  records _ differ := person?_without differ
  parents _ differ := parentsOf_without differ
  children _ differ := childrenOf_without differ
  kinship options _ _ := classify_without options
  refused _ present := addEdge_without present

/-- Removing somebody from a family with different identifiers gives that person, and takes away exactly the person and
the links that touch the person. Removing in place does the same. -/
theorem removePerson_removesOnly (tree : FamilyTree) (distinct : tree.known.Nodup) (id : PersonId)
    (known : id ∈ tree.known) :
    ∃ person after, tree.person? id = some person ∧ tree.removePerson id = (some person, after) ∧
      (Editing.removePerson id).run tree = .ok (some person) after ∧ tree.RemovesOnly id after := by
  obtain ⟨person, found⟩ := Option.isSome_iff_exists.mp ((contains_iff tree id).mpr known)
  have removed := removePerson_eq_without distinct found
  refine ⟨person, tree.without id, found, removed, ?_, removesOnly_without tree id⟩
  rw [Editing.removePerson_eq, Editing.run_ofChange_eq_ok_iff, removed]

/-- A father is removed who stands between a grandmother and her grandchild. The mother and the father's sister stay
where they were, the aunt's and the grandmother's kinship is the same, and no link with him can be entered again. -/
theorem removePerson_removesOnly_between_generations :
    let tree : FamilyTree :=
      { persons := [⟨⟨"g"⟩, "Галина", .female, none⟩, ⟨⟨"f"⟩, "Фёдор", .male, some "отец"⟩,
          ⟨⟨"s"⟩, "Софья", .female, none⟩,
          ⟨⟨"m"⟩, "Мария", .female, none⟩, ⟨⟨"c"⟩, "Вера", .female, none⟩]
        edges := [⟨⟨"g"⟩, ⟨"f"⟩⟩, ⟨⟨"g"⟩, ⟨"s"⟩⟩, ⟨⟨"f"⟩, ⟨"c"⟩⟩, ⟨⟨"m"⟩, ⟨"c"⟩⟩] }
    tree.known.Nodup ∧ ⟨"f"⟩ ∈ tree.known ∧
      ∃ person after, tree.removePerson ⟨"f"⟩ = (some person, after) ∧ person.name = "Фёдор" ∧
        after.edges = [⟨⟨"g"⟩, ⟨"s"⟩⟩, ⟨⟨"m"⟩, ⟨"c"⟩⟩] ∧ after.parentsOf ⟨"c"⟩ = [⟨"m"⟩] ∧
        after.childrenOf ⟨"g"⟩ = [⟨"s"⟩] ∧ after.classify {} ⟨"g"⟩ ⟨"s"⟩ = tree.classify {} ⟨"g"⟩ ⟨"s"⟩ ∧
        after.addEdge ⟨"f"⟩ ⟨"m"⟩ = .error (.unknownPerson ⟨"f"⟩) := by
  intro tree
  have distinct : tree.known.Nodup := by decide
  have known : ⟨"f"⟩ ∈ tree.known := by decide
  obtain ⟨person, after, found, removed, _, only⟩ := removePerson_removesOnly tree distinct ⟨"f"⟩ known
  have named : person = ⟨⟨"f"⟩, "Фёдор", .male, some "отец"⟩ := Option.some.inj (found.symm.trans (by decide))
  have mother : ⟨"m"⟩ ∈ after.known := by
    rw [FamilyTree.known, only.persons]
    decide
  refine ⟨distinct, known, person, after, removed, by rw [named], ?_, ?_, ?_, ?_, (only.refused ⟨"m"⟩ mother).1⟩
  · rw [only.edges]
    decide
  · rw [only.parents ⟨"c"⟩ (by decide)]
    decide
  · rw [only.children ⟨"g"⟩ (by decide)]
    decide
  · exact only.kinship {} ⟨"g"⟩ ⟨"s"⟩ (by decide) (by decide) (by decide) (by decide)

end FamilyTree

end Kindred
