import Kindred.Pedigree.NumberedGraph
import Kindred.Proofs.Pedigree.Cycles
import Kindred.Proofs.Pedigree.Path
import Kindred.Proofs.Pedigree.Sound
import Mathlib.Data.List.Induction
import Mathlib.Data.List.Nodup

/-! The graph that is built record by record, with numbers for people, has the people and the kept links of the
records, and answers what the tables and the graph of the kept links answer. -/

namespace Kindred

/-- Sorted by a strict order of which one of two different members always comes first, a list without repeats is
strictly increasing. -/
theorem increasing_mergeSort {α : Type} [LT α] [DecidableLT α] [Std.Asymm fun a b : α => a < b]
    [Trans (fun a b : α => a < b) (fun a b => a < b) fun a b => a < b] [Std.Trichotomous fun a b : α => a < b]
    {members : List α} (nodup : members.Nodup) :
    (members.mergeSort fun first second => decide ¬second < first).Pairwise (· < ·) := by
  have connected : ∀ first second : α, ¬second < first → first ≠ second → first < second := by
    intro first second notBelow differ
    refine Classical.byContradiction fun notAbove => differ ?_
    exact Std.Trichotomous.trichotomous first second notAbove notBelow
  have sorted : (members.mergeSort fun first second => decide ¬second < first).Pairwise
      fun first second => decide ¬second < first := by
    refine List.pairwise_mergeSort (fun first second third one other => ?_) (fun first second => ?_) members
    · -- Where the third came before the first, the second would have to come before one of the two.
      simp only [decide_eq_true_eq] at one other ⊢
      intro below
      by_cases same : first = second
      · exact other (same ▸ below)
      · exact other (Trans.trans below (connected first second one same))
    · by_cases below : second < first
      · simp [Std.Asymm.asymm second first below]
      · simp [below]
  have different : (members.mergeSort fun first second => decide ¬second < first).Nodup :=
    (List.mergeSort_perm members _).nodup_iff.mpr nodup
  refine sorted.imp₂ (fun first second notBelow differ => ?_) different
  exact connected first second (of_decide_eq_true notBelow) differ

/-- Of two different identifiers one precedes the other. -/
instance : Std.Trichotomous fun a b : PersonId => a < b where
  trichotomous a b notBelow notAbove := by
    refine Classical.byContradiction fun differ => notAbove ?_
    exact PersonId.lt_of_not_lt differ notBelow

/-- Without its repeated members a list has none. -/
theorem nodup_eraseDups {α : Type} [DecidableEq α] (members : List α) : members.eraseDups.Nodup := by
  induction members using List.reverseRecOn with
  | nil => exact List.nodup_nil
  | append_singleton rest last ih =>
    rw [List.eraseDups_append]
    by_cases old : last ∈ rest
    · simpa [old, List.removeAll] using ih
    · rw [List.removeAll, List.filter_cons_of_pos (by simp [old])]
      refine List.nodup_append.mpr ⟨ih, by simp [List.eraseDups_cons], fun other member last' single => ?_⟩
      have same : last' = last := by simpa using single
      exact fun equal => old (same ▸ equal ▸ List.mem_eraseDups.mp member)

/-- Sorted, the identifiers are the same. -/
theorem mem_sortAll {id : PersonId} {ids : List PersonId} : id ∈ sortAll ids ↔ id ∈ ids :=
  List.mem_mergeSort

/-- Of identifiers without repeats both ways of sorting make the same list. -/
theorem sortAll_eq_sortIds {ids : List PersonId} (nodup : ids.Nodup) : sortAll ids = sortIds ids :=
  eq_of_increasing_of_mem (increasing_mergeSort nodup) (pairwise_sortIds ids) fun _ =>
    mem_sortAll.trans mem_sortIds.symm

/-- The parent and the child that a link joins. -/
def ParentEdge.pair (edge : ParentEdge) : PersonId × PersonId :=
  (edge.parent, edge.child)

/-- The people to whom links lead from a person. -/
def Pedigree.neighbours (graph : Pedigree) (direction : Direction) (id : PersonId) : List PersonId :=
  sortIds ((graph.links.filter fun link => direction.near link.pair = id).map fun link =>
    direction.far link.pair)

/-- The people from whom no link leads in a direction. -/
def Pedigree.ends (graph : Pedigree) (direction : Direction) : List PersonId :=
  graph.people.filter fun id => !graph.links.any fun link => direction.near link.pair = id

namespace NumberedGraph

/-- The numbers of the two people whom a link joins. -/
def numbersOf (graph : NumberedGraph) (edge : ParentEdge) : Nat × Nat :=
  (graph.people.idxOf edge.parent, graph.people.idxOf edge.child)

/-- A graph numbers its people by their places, each once, and its links are some links between them. -/
structure Joins (graph : NumberedGraph) (links : List ParentEdge) : Prop where
  nodup : graph.people.Nodup
  numbers : ∀ id, graph.numbers.get? id =
    if id ∈ graph.people then some (graph.people.idxOf id) else none
  known : ∀ link ∈ links, link.parent ∈ graph.people ∧ link.child ∈ graph.people
  links : graph.links = links.map graph.numbersOf

namespace Joins

variable {graph : NumberedGraph} {links : List ParentEdge} {direction : Direction}

/-- Without people there is nothing to join. -/
theorem empty : NumberedGraph.empty.Joins [] :=
  ⟨List.nodup_nil, fun _ => rfl, by simp, rfl⟩

/-- An identifier has a number exactly if it is among the people. -/
theorem contains_iff (joins : graph.Joins links) (id : PersonId) :
    graph.numbers.contains id ↔ id ∈ graph.people := by
  rw [IdMap.contains_eq_isSome, joins.numbers]
  by_cases known : id ∈ graph.people <;> simp [known]

/-- The identifiers that have numbers are the people. -/
theorem mem_keys_iff (joins : graph.Joins links) (id : PersonId) :
    id ∈ graph.numbers.keys ↔ id ∈ graph.people := by
  rw [IdMap.mem_keys_iff, joins.numbers]
  by_cases known : id ∈ graph.people <;> simp [known]

/-- Somebody new comes behind the others. -/
theorem people_addPerson (joins : graph.Joins links) (id : PersonId) :
    (graph.addPerson id).people = if id ∈ graph.people then graph.people else graph.people ++ [id] := by
  rw [addPerson, if_congr (joins.contains_iff id) rfl rfl]
  split <;> rfl

/-- Somebody new gets a number as long as there are no links. -/
theorem addPerson (joins : graph.Joins []) (id : PersonId) : (graph.addPerson id).Joins [] := by
  rw [NumberedGraph.addPerson, if_congr (joins.contains_iff id) rfl rfl]
  split
  · exact joins
  · rename_i new
    refine ⟨?_, fun other => ?_, by simp, joins.links⟩
    · refine List.nodup_append.mpr ⟨joins.nodup, List.nodup_singleton id, fun other member last single => ?_⟩
      exact fun same => new (List.mem_singleton.mp single ▸ same ▸ member)
    · -- The others keep their places.
      rw [IdMap.get?_insert, joins.numbers]
      by_cases same : other = id
      · simp [same, new, List.idxOf_append]
      · by_cases known : other ∈ graph.people
        · simp [same, known, List.idxOf_append]
        · simp [same, known]

/-- A link among the people is there exactly if its numbers are. -/
theorem numbersOf_mem_iff (joins : graph.Joins links) {edge : ParentEdge} (parent : edge.parent ∈ graph.people)
    (child : edge.child ∈ graph.people) : graph.numbersOf edge ∈ graph.links ↔ edge ∈ links := by
  rw [joins.links, List.mem_map]
  constructor
  · rintro ⟨other, member, same⟩
    obtain ⟨sameParent, sameChild⟩ := Prod.mk.inj same
    have parents := (List.idxOf_inj (joins.known other member).1).mp sameParent
    have children := (List.idxOf_inj (joins.known other member).2).mp sameChild
    cases other
    cases edge
    simp_all
  · exact fun member => ⟨edge, member, rfl⟩

/-- A link is added if it fits and is new, and it goes behind the others. -/
theorem addLink_eq (joins : graph.Joins links) (edge : ParentEdge) :
    graph.addLink edge = if Pedigree.keeps graph.people edge ∧ edge ∉ links then
      { graph with links := graph.links ++ [graph.numbersOf edge] } else graph := by
  rw [NumberedGraph.addLink, Pedigree.keeps, joins.numbers, joins.numbers]
  by_cases loop : edge.isSelfLoop
  · simp [loop]
  by_cases parent : edge.parent ∈ graph.people
  case neg => simp [loop, parent]
  by_cases child : edge.child ∈ graph.people
  case neg => simp [loop, parent, child]
  -- The link fits, so it is new exactly if its numbers are.
  have there := joins.numbersOf_mem_iff parent child
  rw [numbersOf] at there
  simp [loop, parent, child, there, numbersOf]

/-- With a link that fits the graph joins that link too. -/
theorem concat (joins : graph.Joins links) {edge : ParentEdge} (fits : Pedigree.keeps graph.people edge) :
    Joins { graph with links := graph.links ++ [graph.numbersOf edge] } (links ++ [edge]) := by
  simp only [Pedigree.keeps, Bool.and_eq_true, List.contains_iff_mem] at fits
  obtain ⟨⟨_, parent⟩, child⟩ := fits
  refine ⟨joins.nodup, joins.numbers, ?_, ?_⟩
  · exact List.forall_mem_append.mpr ⟨joins.known, List.forall_mem_singleton.mpr ⟨parent, child⟩⟩
  · simp only [joins.links, List.map_append]
    rfl

end Joins

variable (people : List Person) (edges : List ParentEdge)

/-- People without links have numbers in the order in which they come for the first time. -/
theorem joins_foldl_addPerson (ids : List PersonId) :
    (ids.foldl addPerson empty).Joins [] ∧ (ids.foldl addPerson empty).people = ids.eraseDups := by
  induction ids using List.reverseRecOn with
  | nil => exact ⟨.empty, rfl⟩
  | append_singleton rest last ih =>
    obtain ⟨joins, people⟩ := ih
    rw [List.foldl_append, List.foldl_cons, List.foldl_nil]
    refine ⟨joins.addPerson last, ?_⟩
    -- The last one is new exactly if it does not stand among the others.
    rw [joins.people_addPerson, people, List.eraseDups_append]
    by_cases old : last ∈ rest
    · simp [old, List.removeAll]
    · simp [old, List.removeAll, List.eraseDups_cons]

/-- Links added one after the other leave the people, and join those that fit, each once. -/
theorem joins_foldl_addLink {graph : NumberedGraph} (joins : graph.Joins []) :
    (edges.foldl addLink graph).people = graph.people ∧
      (edges.foldl addLink graph).Joins (edges.filter (Pedigree.keeps graph.people)).eraseDups := by
  induction edges using List.reverseRecOn with
  | nil => exact ⟨rfl, joins⟩
  | append_singleton rest last ih =>
    obtain ⟨same, before⟩ := ih
    rw [List.foldl_append, List.foldl_cons, List.foldl_nil, before.addLink_eq, eraseDups_filter_concat]
    -- Among the links that fit, the last one is new if it has not come before.
    have asked : (Pedigree.keeps (rest.foldl addLink graph).people last ∧
        last ∉ (rest.filter (Pedigree.keeps graph.people)).eraseDups) ↔
          Pedigree.keeps graph.people last ∧ last ∉ rest := by
      rw [same]
      refine and_congr_right fun fits => not_congr ?_
      rw [List.mem_eraseDups, List.mem_filter, and_iff_left fits]
    rw [if_congr asked rfl rfl]
    split
    · rename_i new
      exact ⟨same, before.concat (same ▸ new.1)⟩
    · exact ⟨same, before⟩

/-- The people of the graph are those of the records, each at the first place. -/
theorem people_ofRecords : (ofRecords people edges).people = (people.map Person.id).eraseDups := by
  obtain ⟨joins, numbered⟩ := joins_foldl_addPerson (people.map Person.id)
  rw [ofRecords, (joins_foldl_addLink edges joins).1, numbered]

/-- The people of the graph are the recorded ones. -/
theorem mem_people (id : PersonId) : id ∈ (ofRecords people edges).people ↔ id ∈ people.map Person.id := by
  rw [people_ofRecords, List.mem_eraseDups]

/-- The graph joins the kept links of the records, in their order. -/
theorem joins_ofRecords : (ofRecords people edges).Joins (Pedigree.ofRecords people edges).links := by
  obtain ⟨joins, numbered⟩ := joins_foldl_addPerson (people.map Person.id)
  have whole := (joins_foldl_addLink edges joins).2
  rw [numbered] at whole
  have filters : Pedigree.keeps (people.map Person.id).eraseDups =
      Pedigree.keeps (sortIds (people.map Person.id)) :=
    Pedigree.keeps_congr fun _ => List.mem_eraseDups.trans mem_sortIds.symm
  rwa [filters] at whole

/-- The people with the numbers of some of them are these, in increasing order. -/
theorem peopleAt_map_idxOf {graph : NumberedGraph} {ids : List PersonId} (known : ∀ id ∈ ids, id ∈ graph.people) :
    graph.peopleAt (ids.map graph.people.idxOf) = sortAll ids := by
  have named : ids.filterMap (fun id => graph.people[graph.people.idxOf id]?) = ids := by
    rw [List.filterMap_congr fun id member => List.getElem?_idxOf (known id member), List.filterMap_some]
  rw [peopleAt, List.filterMap_map]
  exact congrArg sortAll named

/-- The numbers at the ends of a link are those of the people there. -/
theorem ends_numbersOf (graph : NumberedGraph) (direction : Direction) (link : ParentEdge) :
    direction.near (graph.numbersOf link) = graph.people.idxOf (direction.near link.pair) ∧
      direction.far (graph.numbersOf link) = graph.people.idxOf (direction.far link.pair) := by
  cases direction <;> exact ⟨rfl, rfl⟩

/-- At both ends of a link there are people of the graph. -/
theorem Joins.ends_known {graph : NumberedGraph} {links : List ParentEdge} (joins : graph.Joins links)
    (direction : Direction) {link : ParentEdge} (member : link ∈ links) :
    direction.near link.pair ∈ graph.people ∧ direction.far link.pair ∈ graph.people := by
  cases direction
  · exact (joins.known link member).symm
  · exact joins.known link member

/-- A link leads from the number of a person exactly if it leads from that person. -/
theorem Joins.near_eq_iff {graph : NumberedGraph} {links : List ParentEdge} (joins : graph.Joins links)
    (direction : Direction) {link : ParentEdge} (member : link ∈ links) (id : PersonId) :
    direction.near (graph.numbersOf link) = graph.people.idxOf id ↔ direction.near link.pair = id := by
  rw [(graph.ends_numbersOf direction link).1]
  exact List.idxOf_inj (joins.ends_known direction member).1

/-- Of links without repeats, those of one person lead to different people. -/
theorem nodup_far {links : List ParentEdge} (nodup : links.Nodup) (direction : Direction) (id : PersonId) :
    ((links.filter fun link => direction.near link.pair = id).map fun link => direction.far link.pair).Nodup := by
  refine List.Nodup.map_on (fun link member other otherMember same => ?_) (nodup.filter _)
  have near := of_decide_eq_true (List.mem_filter.mp member).2
  have otherNear := of_decide_eq_true (List.mem_filter.mp otherMember).2
  -- Both ends are the same.
  cases link
  cases other
  cases direction <;> simp_all [Direction.near, Direction.far, ParentEdge.pair]

/-- Who has no number has no link. -/
theorem Joins.filter_eq_nil {graph : NumberedGraph} {links : List ParentEdge} (joins : graph.Joins links)
    (direction : Direction) {id : PersonId} (unknown : id ∉ graph.people) :
    (links.filter fun link => direction.near link.pair = id) = [] := by
  refine List.filter_eq_nil_iff.mpr fun link member near => unknown ?_
  exact of_decide_eq_true near ▸ (joins.ends_known direction member).1

/-- By numbers a person has the same neighbours as by links. -/
theorem Joins.neighbours_eq {graph : NumberedGraph} {links : List ParentEdge} (joins : graph.Joins links)
    (nodup : links.Nodup) (direction : Direction) (id : PersonId) :
    graph.neighbours direction id =
      sortIds ((links.filter fun link => direction.near link.pair = id).map fun link => direction.far link.pair) := by
  rw [neighbours, joins.numbers]
  by_cases known : id ∈ graph.people
  case neg =>
    rw [if_neg known, joins.filter_eq_nil direction known]
    rfl
  -- The links at the number are those of the person, and the numbers at their other ends are those of the neighbours.
  have here : (graph.links.filter fun link => direction.near link = graph.people.idxOf id) =
      (links.filter fun link => direction.near link.pair = id).map graph.numbersOf := by
    rw [joins.links, List.filter_map]
    refine congrArg (List.map graph.numbersOf) (List.filter_congr fun link member => ?_)
    exact decide_eq_decide.mpr (joins.near_eq_iff direction member id)
  have there : ((links.filter fun link => direction.near link.pair = id).map graph.numbersOf).map direction.far =
      ((links.filter fun link => direction.near link.pair = id).map fun link => direction.far link.pair).map
        graph.people.idxOf := by
    rw [List.map_map, List.map_map]
    exact List.map_congr_left fun link _ => (graph.ends_numbersOf direction link).2
  simp only [if_pos known]
  rw [here, there, peopleAt_map_idxOf, sortAll_eq_sortIds (nodup_far nodup direction id)]
  rintro other listed
  obtain ⟨link, member, rfl⟩ := List.mem_map.mp listed
  exact (joins.ends_known direction (List.mem_filter.mp member).1).2

/-- The numbered graph of some records answers with the neighbours by kept links. -/
theorem neighbours_ofRecords (direction : Direction) (id : PersonId) :
    (ofRecords people edges).neighbours direction id = (Pedigree.ofRecords people edges).neighbours direction id :=
  (joins_ofRecords people edges).neighbours_eq (nodup_eraseDups _) direction id

/-- The row of a person holds the neighbours, and only people have one. -/
theorem get?_rows (graph : NumberedGraph) (direction : Direction) (id : PersonId) (row : List PersonId) :
    (graph.rows direction).get? id = some row ↔
      id ∈ graph.numbers.keys ∧ row = graph.neighbours direction id := by
  have agree : IdMap.Agree (graph.numbers.keys.map fun id => (id, graph.neighbours direction id)) := by
    intro id first second one other
    obtain ⟨_, _, same⟩ := List.mem_map.mp one
    obtain ⟨_, _, equal⟩ := List.mem_map.mp other
    cases same
    cases equal
    rfl
  rw [rows, IdMap.get?_ofList_eq_some agree, List.mem_map]
  constructor
  · rintro ⟨_, known, same⟩
    cases same
    exact ⟨known, rfl⟩
  · rintro ⟨known, rfl⟩
    exact ⟨id, known, rfl⟩

/-- Of a graph that joins some links, everybody's row holds the neighbours, and exactly the people have one. -/
theorem Joins.rowOf_rows {graph : NumberedGraph} {links : List ParentEdge} (joins : graph.Joins links)
    (direction : Direction) (id : PersonId) :
    KinTable.rowOf (graph.rows direction) id = graph.neighbours direction id ∧
      ((graph.rows direction).contains id ↔ id ∈ graph.people) := by
  rw [KinTable.rowOf, IdMap.contains_eq_isSome, ← joins.mem_keys_iff]
  have told := graph.get?_rows direction id
  cases found : (graph.rows direction).get? id with
  | some row =>
    obtain ⟨known, rfl⟩ := (told row).mp found
    exact ⟨rfl, iff_of_true rfl known⟩
  | none =>
    have unknown : id ∉ graph.numbers.keys := fun known => by
      rw [(told _).mpr ⟨known, rfl⟩] at found
      cases found
    refine ⟨?_, iff_of_false Bool.false_ne_true unknown⟩
    rw [joins.mem_keys_iff] at unknown
    simp [neighbours, joins.numbers, unknown]

/-- The tables of the numbered graph are the tables of the records. -/
theorem table_ofRecords : (ofRecords people edges).table = KinTable.ofRecords people edges := by
  have joins := joins_ofRecords people edges
  have row : ∀ direction id, KinTable.rowOf ((ofRecords people edges).rows direction) id =
      (Pedigree.ofRecords people edges).neighbours direction id := fun direction id =>
    (joins.rowOf_rows direction id).1.trans (neighbours_ofRecords people edges direction id)
  have known : ∀ direction id, ((ofRecords people edges).rows direction).contains id ↔ id ∈ people.map Person.id :=
    fun direction id => (joins.rowOf_rows direction id).2.trans (mem_people people edges id)
  have increasing : ∀ direction id,
      (KinTable.rowOf ((ofRecords people edges).rows direction) id).Pairwise (· < ·) := fun direction id =>
    row direction id ▸ pairwise_sortIds _
  have holds := KinTable.describes_ofRecords people edges
  refine KinTable.Describes.unique ⟨known .up, known .down, fun parent child => ?_, fun parent child => ?_,
    increasing .up, increasing .down⟩ holds
  · change parent ∈ KinTable.rowOf ((ofRecords people edges).rows .up) child ↔ _
    rw [row]
    exact Pedigree.mem_parents people edges parent child
  · change child ∈ KinTable.rowOf ((ofRecords people edges).rows .down) parent ↔ _
    rw [row]
    exact Pedigree.mem_children people edges parent child

/-- A selection takes the identifiers with numbers that fit. -/
theorem mem_select (graph : NumberedGraph) (fits : Nat → Bool) (id : PersonId) :
    id ∈ graph.select fits ↔ ∃ number, graph.numbers.get? id = some number ∧ fits number := by
  simp [select, mem_sortAll, IdMap.mem_entries_iff]

/-- A selection stands in increasing order. -/
theorem pairwise_select (graph : NumberedGraph) (fits : Nat → Bool) : (graph.select fits).Pairwise (· < ·) := by
  -- The identifiers are those of a map, so none of them occurs twice.
  refine increasing_mergeSort ?_
  have kept : ((graph.numbers.entries.filter fun entry => fits entry.2).map Prod.fst).Sublist
      (graph.numbers.entries.map Prod.fst) := (List.filter_sublist).map _
  exact (nodup_of_increasing graph.numbers.increasing).sublist kept

/-- At the ends of the graph stand the people from whom no link leads on. -/
theorem Joins.mem_ends {graph : NumberedGraph} {links : List ParentEdge} (joins : graph.Joins links)
    (direction : Direction) (id : PersonId) :
    id ∈ graph.ends direction ↔ id ∈ graph.people ∧ ∀ link ∈ links, direction.near link.pair ≠ id := by
  rw [ends, mem_select]
  simp only [joins.numbers, joins.links, List.any_map, Option.ite_none_right_eq_some, Option.some.injEq]
  constructor
  · rintro ⟨_, ⟨known, rfl⟩, free⟩
    refine ⟨known, fun link member near => ?_⟩
    have taken := (joins.near_eq_iff direction member id).mpr near
    simp only [Bool.not_eq_true', List.any_eq_false] at free
    exact free link member (decide_eq_true taken)
  · rintro ⟨known, free⟩
    refine ⟨_, ⟨known, rfl⟩, ?_⟩
    simp only [Bool.not_eq_true', List.any_eq_false]
    intro link member taken
    exact free link member ((joins.near_eq_iff direction member id).mp (of_decide_eq_true taken))

/-- The ends of the numbered graph of some records are those by kept links. -/
theorem ends_ofRecords (direction : Direction) :
    (ofRecords people edges).ends direction = (Pedigree.ofRecords people edges).ends direction := by
  have joins := joins_ofRecords people edges
  have sorted : (Pedigree.ofRecords people edges).people.Pairwise (· < ·) := pairwise_sortIds _
  have known : ∀ id, id ∈ (ofRecords people edges).people ↔ id ∈ (Pedigree.ofRecords people edges).people :=
    fun id => (mem_people people edges id).trans mem_sortIds.symm
  refine eq_of_increasing_of_mem (pairwise_select _ _) (sorted.filter _) fun id => ?_
  rw [joins.mem_ends, known, Pedigree.ends, List.mem_filter]
  simp

/-- The graph with numbers answers the same as the tables and the graph of the kept links. -/
structure AnswersAlike : Prop where
  everybody : (ofRecords people edges).people = (people.map Person.id).eraseDups
  parents : ∀ id, (ofRecords people edges).neighbours .up id = (Pedigree.ofRecords people edges).parents id
  children : ∀ id, (ofRecords people edges).neighbours .down id = (Pedigree.ofRecords people edges).children id
  table : (ofRecords people edges).table = KinTable.ofRecords people edges
  founders : (ofRecords people edges).ends .up = (Pedigree.ofRecords people edges).founders
  childless : (ofRecords people edges).ends .down = (Pedigree.ofRecords people edges).childless
  linkCount : (ofRecords people edges).links.length = (Pedigree.ofRecords people edges).links.length

/-- However the records are, both graphs of them answer alike. -/
theorem answersAlike : AnswersAlike people edges where
  everybody := people_ofRecords people edges
  parents := neighbours_ofRecords people edges .up
  children := neighbours_ofRecords people edges .down
  table := table_ofRecords people edges
  founders := ends_ofRecords people edges .up
  childless := ends_ofRecords people edges .down
  linkCount := by rw [(joins_ofRecords people edges).links, List.length_map]

end NumberedGraph

end Kindred
