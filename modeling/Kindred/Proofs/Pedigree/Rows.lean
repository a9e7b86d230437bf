import Kindred.Proofs.Pedigree.NumberedGraph
import Mathlib.Algebra.GroupWithZero.Nat

/-! The rows of the tables hold the kept links, on both sides and nothing else, so they depend neither on the order of
the records nor on how often each occurs. -/

namespace Kindred

/-- The link from one person in a direction to another. -/
def Direction.link : Direction → PersonId → PersonId → ParentEdge
  | .up, near, far => ⟨far, near⟩
  | .down, near, far => ⟨near, far⟩

/-- A link leads from the person at its near end. -/
theorem Direction.near_link (direction : Direction) (near far : PersonId) :
    direction.near (direction.link near far).pair = near := by
  cases direction <;> rfl

/-- A link leads to the person at its far end. -/
theorem Direction.far_link (direction : Direction) (near far : PersonId) :
    direction.far (direction.link near far).pair = far := by
  cases direction <;> rfl

/-- A link is the one that joins its two ends. -/
theorem Direction.link_ends (direction : Direction) (link : ParentEdge) :
    direction.link (direction.near link.pair) (direction.far link.pair) = link := by
  cases direction <;> rfl

namespace KinTable

/-- The rows of parents or the rows of children. -/
def rowsIn (table : KinTable) : Direction → IdMap (List PersonId)
  | .up => table.parentsOf
  | .down => table.childrenOf

variable {table : KinTable} {known : PersonId → Prop}

/-- A row holds the other ends of the links from one person. -/
theorem Describes.mem_rowOf_iff {links : PersonId → PersonId → Prop} (holds : table.Describes known links)
    (direction : Direction) (near far : PersonId) :
    far ∈ rowOf (table.rowsIn direction) near ↔
      links (direction.link near far).parent (direction.link near far).child := by
  cases direction
  · exact holds.parents far near
  · exact holds.children near far

/-- Every row is increasing. -/
theorem Describes.pairwise_rowOf {links : PersonId → PersonId → Prop} (holds : table.Describes known links)
    (direction : Direction) (id : PersonId) : (rowOf (table.rowsIn direction) id).Pairwise (· < ·) := by
  cases direction
  · exact holds.parentsIncreasing id
  · exact holds.childrenIncreasing id

/-- The known people have rows. -/
theorem Describes.mem_keys_iff {links : PersonId → PersonId → Prop} (holds : table.Describes known links)
    (direction : Direction) (id : PersonId) : id ∈ (table.rowsIn direction).keys ↔ known id := by
  rw [IdMap.mem_keys_iff, ← Option.isSome_iff_exists, ← IdMap.contains_eq_isSome]
  cases direction
  · exact holds.parentRows id
  · exact holds.childRows id

/-- The links that some rows list, row by row. -/
def listed (rows : IdMap (List PersonId)) (direction : Direction) : List ParentEdge :=
  rows.entries.flatMap fun entry => entry.2.map (direction.link entry.1)

/-- A link is listed in the row of the person from whom it leads. -/
theorem mem_listed_iff (rows : IdMap (List PersonId)) (direction : Direction) (link : ParentEdge) :
    link ∈ listed rows direction ↔ direction.far link.pair ∈ rowOf rows (direction.near link.pair) := by
  -- The row is that of the person at the near end.
  simp only [listed, List.mem_flatMap, List.mem_map, Prod.exists, IdMap.mem_entries_iff, rowOf]
  constructor
  · rintro ⟨near, row, found, far, member, rfl⟩
    rw [direction.near_link, direction.far_link, found]
    exact member
  · intro member
    cases found : rows.get? (direction.near link.pair) with
    | none => simp [found] at member
    | some row =>
      rw [found] at member
      exact ⟨_, row, found, _, member, direction.link_ends link⟩

/-- Increasing rows list no link twice. -/
theorem nodup_listed {rows : IdMap (List PersonId)} (increasing : ∀ id, (rowOf rows id).Pairwise (· < ·))
    (direction : Direction) : (listed rows direction).Nodup := by
  refine List.nodup_flatMap.mpr ⟨fun entry member => ?_, ?_⟩
  · -- In one row the far ends differ.
    have found := (IdMap.mem_entries_iff rows entry.1 entry.2).mp member
    have row := increasing entry.1
    rw [rowOf, found] at row
    refine List.Nodup.map_on (fun one _ other _ same => ?_) (nodup_of_increasing row)
    rw [← direction.far_link entry.1 one, same, direction.far_link]
  · -- In two rows the near ends differ.
    refine (List.pairwise_map.mp rows.increasing).imp fun {one other} before => ?_
    intro link inOne inOther
    obtain ⟨far, _, rfl⟩ := List.mem_map.mp inOne
    obtain ⟨far', _, same⟩ := List.mem_map.mp inOther
    have near := congrArg (fun link => direction.near link.pair) same
    simp only [direction.near_link] at near
    exact PersonId.lt_irrefl _ (near ▸ before)

/-- Together the rows are as long as there are links. -/
theorem Describes.sum_lengths {links : List ParentEdge}
    (holds : table.Describes known fun parent child => ⟨parent, child⟩ ∈ links) (nodup : links.Nodup)
    (direction : Direction) :
    ((table.rowsIn direction).entries.map fun entry => entry.2.length).sum = links.length := by
  -- Row by row the same links are listed, each once.
  have same : (listed (table.rowsIn direction) direction).Perm links := by
    refine (List.perm_ext_iff_of_nodup (nodup_listed (holds.pairwise_rowOf direction) direction) nodup).mpr ?_
    intro link
    rw [mem_listed_iff, holds.mem_rowOf_iff, direction.link_ends]
  rw [← same.length_eq, listed, List.length_flatMap]
  simp only [List.length_map]

variable (people : List Person) (edges : List ParentEdge)

/-- The tables of some records hold the links of their graph. -/
theorem describes_links : (ofRecords people edges).Describes (fun id => id ∈ people.map Person.id)
    fun parent child => ⟨parent, child⟩ ∈ (Pedigree.ofRecords people edges).links :=
  (describes_ofRecords people edges).congr fun parent child =>
    (Pedigree.mem_links people edges parent child).symm

/-- A person has the same neighbours in the graph of some records as in the tables. -/
theorem neighbours_eq_rowOf (direction : Direction) (id : PersonId) :
    (Pedigree.ofRecords people edges).neighbours direction id =
      rowOf ((ofRecords people edges).rowsIn direction) id := by
  have holds := describes_ofRecords people edges
  refine eq_of_increasing_of_mem (pairwise_sortIds _) (holds.pairwise_rowOf direction id) fun other => ?_
  rw [holds.mem_rowOf_iff]
  cases direction
  · exact Pedigree.mem_parents people edges other id
  · exact Pedigree.mem_children people edges id other

/-- From a person of the records no link leads in a direction exactly if the row is empty. -/
theorem mem_ends_iff (direction : Direction) (id : PersonId) :
    id ∈ (Pedigree.ofRecords people edges).ends direction ↔
      id ∈ people.map Person.id ∧ rowOf ((ofRecords people edges).rowsIn direction) id = [] := by
  rw [← neighbours_eq_rowOf, Pedigree.ends, List.mem_filter, Pedigree.mem_people]
  refine and_congr_right fun _ => ?_
  simp only [Bool.not_eq_true', List.any_eq_false, decide_eq_true_eq, List.eq_nil_iff_forall_not_mem,
    Pedigree.neighbours, mem_sortIds, List.mem_map, List.mem_filter]
  constructor
  · rintro free _ ⟨link, ⟨member, near⟩, _⟩
    exact free link member near
  · intro nobody link member near
    exact nobody _ ⟨link, ⟨member, near⟩, rfl⟩

/-- The tables of some records: exactly the recorded people have rows, the rows hold the kept links in increasing order,
and all that the graph answers about neighbours, ends and the number of links can be read from them. -/
structure HoldsKeptLinks : Prop where
  parentKeys : ∀ id, id ∈ (ofRecords people edges).parentsOf.keys ↔ id ∈ people.map Person.id
  childKeys : ∀ id, id ∈ (ofRecords people edges).childrenOf.keys ↔ id ∈ people.map Person.id
  parents : ∀ parent child,
    parent ∈ (ofRecords people edges).parents child ↔ KeptLink people edges parent child
  children : ∀ parent child,
    child ∈ (ofRecords people edges).children parent ↔ KeptLink people edges parent child
  increasing : ∀ id, ((ofRecords people edges).parents id).Pairwise (· < ·) ∧
    ((ofRecords people edges).children id).Pairwise (· < ·)
  graphParents : ∀ id,
    (Pedigree.ofRecords people edges).parents id = (ofRecords people edges).parents id
  graphChildren : ∀ id,
    (Pedigree.ofRecords people edges).children id = (ofRecords people edges).children id
  founders : (Pedigree.ofRecords people edges).founders.Pairwise (· < ·) ∧
    ∀ id, id ∈ (Pedigree.ofRecords people edges).founders ↔
      id ∈ people.map Person.id ∧ (ofRecords people edges).parents id = []
  childless : (Pedigree.ofRecords people edges).childless.Pairwise (· < ·) ∧
    ∀ id, id ∈ (Pedigree.ofRecords people edges).childless ↔
      id ∈ people.map Person.id ∧ (ofRecords people edges).children id = []
  parentCount : ((ofRecords people edges).parentsOf.entries.map fun entry => entry.2.length).sum =
    (Pedigree.ofRecords people edges).links.length
  childCount : ((ofRecords people edges).childrenOf.entries.map fun entry => entry.2.length).sum =
    (Pedigree.ofRecords people edges).links.length
  /-- So does the graph in which people have numbers. -/
  numbered : NumberedGraph.AnswersAlike people edges
  /-- The order of the records and their repetitions do not matter. -/
  regardless : ∀ people' edges', (∀ id, id ∈ people'.map Person.id ↔ id ∈ people.map Person.id) →
    (∀ edge, edge ∈ edges' ↔ edge ∈ edges) → ofRecords people' edges' = ofRecords people edges

/-- Whatever the records are, their tables hold the kept links, and the graph answers what the tables hold. -/
theorem holdsKeptLinks : HoldsKeptLinks people edges := by
  have holds := describes_ofRecords people edges
  have links : (Pedigree.ofRecords people edges).links.Nodup := nodup_eraseDups _
  have sorted : (Pedigree.ofRecords people edges).people.Pairwise (· < ·) := pairwise_sortIds _
  refine ⟨holds.mem_keys_iff .up, holds.mem_keys_iff .down, holds.parents, holds.children, ?_,
    neighbours_eq_rowOf people edges .up, neighbours_eq_rowOf people edges .down,
    ⟨sorted.filter _, mem_ends_iff people edges .up⟩, ⟨sorted.filter _, mem_ends_iff people edges .down⟩,
    (describes_links people edges).sum_lengths links .up,
    (describes_links people edges).sum_lengths links .down, NumberedGraph.answersAlike people edges, ?_⟩
  · exact fun id => ⟨holds.parentsIncreasing id, holds.childrenIncreasing id⟩
  · intro people' edges' known recorded
    -- The same people are known and the same links are kept, and there is only one table of them.
    refine Describes.unique (describes_ofRecords people' edges') ?_
    have same : ∀ parent child, KeptLink people' edges' parent child ↔ KeptLink people edges parent child :=
      keptLink_congr known fun edge _ _ _ => (recorded edge).symm
    refine ⟨fun id => ?_, fun id => ?_, fun parent child => ?_, fun parent child => ?_,
      holds.parentsIncreasing, holds.childrenIncreasing⟩
    · exact (holds.parentRows id).trans (known id).symm
    · exact (holds.childRows id).trans (known id).symm
    · exact (holds.parents parent child).trans (same parent child).symm
    · exact (holds.children parent child).trans (same parent child).symm

/-- In another order, with a second record of a person and a repeated link, the tables are the same. -/
theorem holdsKeptLinks_among_repetitions :
    let people : List Person := [⟨⟨"b"⟩, "Б", .male, none⟩, ⟨⟨"a"⟩, "А", .female, none⟩]
    let edges : List ParentEdge := [⟨⟨"a"⟩, ⟨"b"⟩⟩]
    let people' : List Person := [⟨⟨"a"⟩, "А", .female, none⟩, ⟨⟨"b"⟩, "Б", .male, none⟩, ⟨⟨"a"⟩, "А", .male, none⟩]
    let edges' : List ParentEdge := [⟨⟨"a"⟩, ⟨"b"⟩⟩, ⟨⟨"a"⟩, ⟨"b"⟩⟩]
    ofRecords people' edges' = ofRecords people edges := by
  intro people edges people' edges'
  refine (holdsKeptLinks people edges).regardless people' edges' (fun id => ?_) (fun edge => ?_)
  · simp [people, people', or_comm]
  · simp [edges, edges']

end KinTable

end Kindred
