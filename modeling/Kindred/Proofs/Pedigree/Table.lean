import Kindred.Pedigree.Table
import Kindred.Proofs.IdMap

/-! The table of a family holds exactly the links that join two different people of the records. -/

namespace Kindred

/-- A recorded link that is kept: it joins two different people of the records. -/
structure KeptLink (people : List Person) (edges : List ParentEdge) (parent child : PersonId) :
    Prop where
  differ : parent ≠ child
  parentKnown : parent ∈ people.map Person.id
  childKnown : child ∈ people.map Person.id
  recorded : ⟨parent, child⟩ ∈ edges

/-- The kept links among the same people are the same where the links that can be kept are. -/
theorem keptLink_congr {people people' : List Person} {edges edges' : List ParentEdge}
    (known : ∀ id, id ∈ people.map Person.id ↔ id ∈ people'.map Person.id)
    (recorded : ∀ edge : ParentEdge, edge.parent ≠ edge.child → edge.parent ∈ people.map Person.id →
      edge.child ∈ people.map Person.id → (edge ∈ edges' ↔ edge ∈ edges)) (parent child : PersonId) :
    KeptLink people edges parent child ↔ KeptLink people' edges' parent child := by
  constructor
  · rintro ⟨differ, parentKnown, childKnown, here⟩
    have there := (recorded ⟨parent, child⟩ differ parentKnown childKnown).mpr here
    exact ⟨differ, (known parent).mp parentKnown, (known child).mp childKnown, there⟩
  · rintro ⟨differ, parentKnown, childKnown, there⟩
    have parentHere := (known parent).mpr parentKnown
    have childHere := (known child).mpr childKnown
    exact ⟨differ, parentHere, childHere,
      (recorded ⟨parent, child⟩ differ parentHere childHere).mp there⟩

namespace KinTable

/-- The row of an identifier; empty, for an identifier without one. -/
def rowOf (rows : IdMap (List PersonId)) (id : PersonId) : List PersonId :=
  (rows.get? id).getD []

/-- Entering a relative in one row changes the members of that row only, and only if there is one. -/
theorem mem_rowOf_modify (rows : IdMap (List PersonId)) (key relative id other : PersonId) :
    other ∈ rowOf (rows.modify key (insertId relative)) id ↔
      other ∈ rowOf rows id ∨ (id = key ∧ other = relative ∧ rows.contains key) := by
  -- Only the row of the key is rewritten, and insertion adds the one relative.
  rw [rowOf, IdMap.get?_modify, IdMap.contains_eq_isSome]
  by_cases same : id = key
  · subst same
    cases found : rows.get? id with
    | none => simp [rowOf, found]
    | some row => simp [rowOf, found, mem_insertId, or_comm]
  · simp [rowOf, same]

/-- Entering a relative keeps every row increasing. -/
theorem pairwise_rowOf_modify {rows : IdMap (List PersonId)}
    (increasing : ∀ id, (rowOf rows id).Pairwise (· < ·)) (key relative id : PersonId) :
    (rowOf (rows.modify key (insertId relative)) id).Pairwise (· < ·) := by
  -- The rewritten row has had one identifier inserted, the others are as before.
  have before := increasing id
  rw [rowOf] at before
  rw [rowOf, IdMap.get?_modify]
  split
  · cases found : rows.get? id with
    | none => simp
    | some row =>
      rw [found] at before
      exact pairwise_insertId before
  · exact before

/-- Entering a relative gives nobody a row and takes no row away. -/
theorem contains_modify (rows : IdMap (List PersonId)) (key id : PersonId)
    (change : List PersonId → List PersonId) :
    (rows.modify key change).contains id = rows.contains id := by
  -- A change keeps every identifier.
  rw [IdMap.contains_eq_isSome, IdMap.contains_eq_isSome, IdMap.get?_modify]
  split <;> simp

/-- A table has a row for each known person, and its rows hold the given links, in increasing order. -/
structure Describes (table : KinTable) (known : PersonId → Prop)
    (links : PersonId → PersonId → Prop) : Prop where
  parentRows : ∀ id, table.parentsOf.contains id ↔ known id
  childRows : ∀ id, table.childrenOf.contains id ↔ known id
  parents : ∀ parent child, parent ∈ table.parents child ↔ links parent child
  children : ∀ parent child, child ∈ table.children parent ↔ links parent child
  parentsIncreasing : ∀ id, (table.parents id).Pairwise (· < ·)
  childrenIncreasing : ∀ id, (table.children id).Pairwise (· < ·)

/-- Only the members of the relation matter. -/
theorem Describes.congr {table : KinTable} {known : PersonId → Prop}
    {links others : PersonId → PersonId → Prop} (holds : table.Describes known links)
    (same : ∀ parent child, links parent child ↔ others parent child) :
    table.Describes known others where
  parentRows := holds.parentRows
  childRows := holds.childRows
  parents parent child := (holds.parents parent child).trans (same parent child)
  children parent child := (holds.children parent child).trans (same parent child)
  parentsIncreasing := holds.parentsIncreasing
  childrenIncreasing := holds.childrenIncreasing

/-- Which links are refused can be told from the known people. -/
theorem Describes.refuses_iff {table : KinTable} {known : PersonId → Prop}
    {links : PersonId → PersonId → Prop} (holds : table.Describes known links)
    (top low : PersonId) :
    ((⟨top, low⟩ : ParentEdge).isSelfLoop || !table.contains top || !table.contains low) = true ↔
      ¬(top ≠ low ∧ known top ∧ known low) := by
  -- The rows are those of the known people.
  rw [← holds.parentRows top, ← holds.parentRows low, contains, contains]
  by_cases same : top = low
  · simp [ParentEdge.isSelfLoop, same]
  · cases table.parentsOf.contains top <;> simp [ParentEdge.isSelfLoop, same]

/-- An accepted link goes into one row on either side. -/
theorem Describes.modify {table : KinTable} {known : PersonId → Prop}
    {links : PersonId → PersonId → Prop} (holds : table.Describes known links) {top low : PersonId}
    (topKnown : known top) (lowKnown : known low) :
    Describes ⟨table.parentsOf.modify low (insertId top), table.childrenOf.modify top (insertId low)⟩
      known fun parent child => links parent child ∨ (child = low ∧ parent = top) := by
  refine ⟨fun id => ?_, fun id => ?_, fun parent child => ?_, fun parent child => ?_,
    pairwise_rowOf_modify holds.parentsIncreasing low top,
    pairwise_rowOf_modify holds.childrenIncreasing top low⟩
  · rw [contains_modify]
    exact holds.parentRows id
  · rw [contains_modify]
    exact holds.childRows id
  · -- The child has a row of parents.
    have row := (holds.parentRows low).mpr lowKnown
    refine (mem_rowOf_modify table.parentsOf low top child parent).trans ?_
    rw [← holds.parents parent child]
    exact or_congr Iff.rfl (and_congr_right fun _ => and_iff_left row)
  · -- The parent has a row of children.
    have row := (holds.childRows top).mpr topKnown
    refine (mem_rowOf_modify table.childrenOf top low parent child).trans ?_
    rw [← holds.children parent child, and_comm (a := child = low) (b := parent = top)]
    exact or_congr Iff.rfl (and_congr_right fun _ => and_iff_left row)

/-- Entering one link adds that link, provided it joins two different known people. -/
theorem Describes.record {table : KinTable} {known : PersonId → Prop}
    {links : PersonId → PersonId → Prop} (holds : table.Describes known links)
    (edge : ParentEdge) :
    (table.record edge).Describes known fun parent child =>
      links parent child ∨ (edge = ⟨parent, child⟩ ∧ parent ≠ child ∧ known parent ∧ known child) := by
  obtain ⟨top, low⟩ := edge
  rw [KinTable.record]
  split
  · -- The link is refused, so the table stays, and no link is added to the others.
    rename_i refused
    have unfit := (holds.refuses_iff top low).mp refused
    refine holds.congr fun parent child => (or_iff_left ?_).symm
    rintro ⟨same, fits⟩
    cases same
    exact unfit fits
  · -- The link is accepted, so it joins two different known people.
    rename_i accepted
    obtain ⟨differ, topKnown, lowKnown⟩ :=
      Classical.not_not.mp fun unfit => accepted ((holds.refuses_iff top low).mpr unfit)
    refine (holds.modify topKnown lowKnown).congr fun parent child => or_congr Iff.rfl ?_
    constructor
    · rintro ⟨rfl, rfl⟩
      exact ⟨rfl, differ, topKnown, lowKnown⟩
    · rintro ⟨same, _⟩
      cases same
      exact ⟨rfl, rfl⟩

/-- Entering a list of links adds each that joins two different known people. -/
theorem Describes.foldl_record {table : KinTable} {known : PersonId → Prop}
    {links : PersonId → PersonId → Prop} (holds : table.Describes known links)
    (edges : List ParentEdge) :
    (edges.foldl KinTable.record table).Describes known fun parent child =>
      links parent child ∨
        (⟨parent, child⟩ ∈ edges ∧ parent ≠ child ∧ known parent ∧ known child) := by
  -- The links are entered one after the other.
  induction edges generalizing table links with
  | nil => simpa using holds
  | cons edge rest ih =>
    have entered := ih (holds.record edge)
    refine entered.congr fun parent child => ?_
    rw [List.mem_cons, or_and_right, or_assoc, eq_comm]

/-- Before any link is entered, each person of the records has an empty row. -/
theorem get?_ofPeople (people : List Person) (id : PersonId) (row : List PersonId) :
    (ofPeople people).parentsOf.get? id = some row ↔ id ∈ people.map Person.id ∧ row = [] := by
  -- Rows under one identifier are all empty, so it does not matter how often the person occurs.
  have agree : IdMap.Agree (people.map fun person => (person.id, ([] : List PersonId))) := by
    intro id value other first second
    obtain ⟨_, _, same⟩ := List.mem_map.mp first
    obtain ⟨_, _, equal⟩ := List.mem_map.mp second
    exact (Prod.ext_iff.mp same).2.symm.trans (Prod.ext_iff.mp equal).2
  rw [ofPeople, IdMap.get?_ofList_eq_some agree]
  simp only [List.mem_map, Prod.mk.injEq]
  constructor
  · rintro ⟨person, member, same, empty⟩
    exact ⟨⟨person, member, same⟩, empty.symm⟩
  · rintro ⟨⟨person, member, same⟩, empty⟩
    exact ⟨person, member, same, empty.symm⟩

/-- The table of people without links. -/
theorem describes_ofPeople (people : List Person) :
    (ofPeople people).Describes (fun id => id ∈ people.map Person.id) fun _ _ => False := by
  -- Both sides of the table are the same map of empty rows.
  have known : ∀ id, (ofPeople people).parentsOf.contains id ↔ id ∈ people.map Person.id := by
    intro id
    rw [IdMap.contains_eq_isSome, Option.isSome_iff_exists]
    simp [get?_ofPeople]
  have nobody : ∀ id, rowOf (ofPeople people).parentsOf id = [] := by
    intro id
    rw [rowOf]
    cases found : (ofPeople people).parentsOf.get? id with
    | none => rfl
    | some row => exact ((get?_ofPeople people id row).mp found).2
  have noMember : ∀ id other, other ∈ rowOf (ofPeople people).parentsOf id ↔ False := by
    simp [nobody]
  have increasing : ∀ id, (rowOf (ofPeople people).parentsOf id).Pairwise (· < ·) := by
    simp [nobody]
  exact ⟨known, known, fun parent child => noMember child parent,
    fun parent child => noMember parent child, increasing, increasing⟩

/-- The table of some records has a row for each person of them and holds the kept links. -/
theorem describes_ofRecords (people : List Person) (edges : List ParentEdge) :
    (ofRecords people edges).Describes (fun id => id ∈ people.map Person.id)
      (KeptLink people edges) := by
  -- All links are entered into the table of the people.
  refine ((describes_ofPeople people).foldl_record edges).congr fun parent child => ?_
  constructor
  · rintro (impossible | ⟨recorded, differ, parentKnown, childKnown⟩)
    · exact impossible.elim
    · exact ⟨differ, parentKnown, childKnown, recorded⟩
  · intro kept
    exact Or.inr ⟨kept.recorded, kept.differ, kept.parentKnown, kept.childKnown⟩

/-- Rows that exist for the same people and hold the same increasing lists are the same rows. -/
theorem rows_unique {rows others : IdMap (List PersonId)}
    (known : ∀ id, rows.contains id ↔ others.contains id)
    (increasing : ∀ id, (rowOf rows id).Pairwise (· < ·))
    (increasing' : ∀ id, (rowOf others id).Pairwise (· < ·))
    (members : ∀ id relative, relative ∈ rowOf rows id ↔ relative ∈ rowOf others id) :
    rows = others := by
  refine IdMap.eq_of_get?_eq fun id => ?_
  have same := eq_of_increasing_of_mem (increasing id) (increasing' id) (members id)
  have both := known id
  rw [IdMap.contains_eq_isSome, IdMap.contains_eq_isSome] at both
  rw [rowOf, rowOf] at same
  -- Either both rows are there, and are equal, or neither is.
  cases here : rows.get? id with
  | none =>
    cases there : others.get? id with
    | none => rfl
    | some row => simp [here, there] at both
  | some row =>
    cases there : others.get? id with
    | none => simp [here, there] at both
    | some other => simpa [here, there] using same

/-- There is only one table for some people and some links. -/
theorem Describes.unique {first second : KinTable} {known : PersonId → Prop}
    {links : PersonId → PersonId → Prop} (one : first.Describes known links)
    (other : second.Describes known links) : first = second := by
  have parents := rows_unique (fun id => (one.parentRows id).trans (other.parentRows id).symm)
    one.parentsIncreasing other.parentsIncreasing
    fun id parent => (one.parents parent id).trans (other.parents parent id).symm
  have children := rows_unique (fun id => (one.childRows id).trans (other.childRows id).symm)
    one.childrenIncreasing other.childrenIncreasing
    fun id child => (one.children id child).trans (other.children id child).symm
  cases first
  cases second
  simp_all

end KinTable

/-- The rows of a table of records hold the kept links. -/
theorem parents_ofRecords (people : List Person) (edges : List ParentEdge) :
    (fun up low => up ∈ (KinTable.ofRecords people edges).parents low) = KeptLink people edges :=
  funext fun parent => funext fun child =>
    propext ((KinTable.describes_ofRecords people edges).parents parent child)

end Kindred
