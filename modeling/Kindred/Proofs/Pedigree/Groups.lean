import Kindred.Proofs.Pedigree.Acyclic
import Kindred.Proofs.Pedigree.NumberedGraph
import Mathlib.Data.Nat.Find
import Mathlib.Logic.Relation

/-! The groups of a graph are exact: they hold the people who are their own ancestors, mutual ancestors together, and
are what any search for strongly connected components leaves after the single people have been set aside. -/

namespace Kindred

namespace NumberedGraph

/-- A link leads from the number of a child up to the number of a parent. -/
def Climbs (graph : NumberedGraph) (low top : Nat) : Prop :=
  (top, low) ∈ graph.links

/-- Links lead from each of two numbers up to the other, in any number of steps. -/
structure Together (graph : NumberedGraph) (one other : Nat) : Prop where
  forth : Relation.ReflTransGen graph.Climbs one other
  back : Relation.ReflTransGen graph.Climbs other one

/-- Lists of numbers are the strongly connected components of a graph: each number stands in one place of one list,
and the list has, in any order, the numbers that are together with it. -/
structure AreComponents (graph : NumberedGraph) (components : List (List Nat)) : Prop where
  cover : components.flatten.Perm (List.range graph.people.length)
  mem_iff : ∀ component ∈ components, ∀ one ∈ component, ∀ other,
    other ∈ component ↔ graph.Together one other

namespace Together

variable {graph : NumberedGraph} {one other third : Nat}

/-- A number is together with itself. -/
theorem refl (number : Nat) : graph.Together number number :=
  ⟨.refl, .refl⟩

/-- The other way round it is the same. -/
theorem symm (both : graph.Together one other) : graph.Together other one :=
  ⟨both.back, both.forth⟩

/-- Two numbers that are together with a third one are together. -/
theorem trans (first : graph.Together one other) (second : graph.Together other third) : graph.Together one third :=
  ⟨first.forth.trans second.forth, second.back.trans first.back⟩

end Together

/-- As many people are found at some numbers of the graph as there are numbers. -/
theorem length_peopleAt {graph : NumberedGraph} {numbers : List Nat}
    (inside : ∀ number ∈ numbers, number < graph.people.length) :
    (graph.peopleAt numbers).length = numbers.length := by
  -- A number below the count of the people is the place of somebody, so none is passed over.
  rw [peopleAt, sortAll, List.length_mergeSort, List.filterMap_length_eq_length]
  intro number member
  simp [inside number member]

section Joined

variable {graph : NumberedGraph} {links : List ParentEdge} (joins : graph.Joins links)
include joins

/-- A person has a number exactly if it is the place of that person. -/
theorem Joins.getElem?_eq_some_iff (number : Nat) (id : PersonId) :
    graph.people[number]? = some id ↔ id ∈ graph.people ∧ graph.people.idxOf id = number := by
  constructor
  · intro located
    have known := List.mem_of_getElem? located
    refine ⟨known, ?_⟩
    -- No person stands at two places.
    refine (List.getElem?_inj (List.idxOf_lt_length_iff.mpr known) joins.nodup).mp ?_
    rw [List.getElem?_idxOf known, located]
  · rintro ⟨known, rfl⟩
    exact List.getElem?_idxOf known

/-- Each number below their count is that of a person. -/
theorem Joins.exists_idxOf_eq {number : Nat} (inside : number < graph.people.length) :
    ∃ id ∈ graph.people, graph.people.idxOf id = number :=
  ⟨_, (joins.getElem?_eq_some_iff number _).mp (List.getElem?_eq_getElem inside)⟩

/-- A step from the number of a person leads to the number of a parent. -/
theorem Joins.climbs_iff (low : PersonId) (number : Nat) :
    graph.Climbs (graph.people.idxOf low) number ↔
      ∃ top ∈ graph.people, number = graph.people.idxOf top ∧ ⟨top, low⟩ ∈ links := by
  -- Among the people of the graph different people have different numbers.
  rw [Climbs, joins.links, List.mem_map]
  constructor
  · rintro ⟨link, member, same⟩
    obtain ⟨top, bottom⟩ := Prod.mk.inj same
    obtain ⟨parentKnown, childKnown⟩ := joins.known link member
    have child := (List.idxOf_inj childKnown).mp bottom
    exact ⟨link.parent, parentKnown, top.symm, child ▸ member⟩
  · rintro ⟨top, _, rfl, member⟩
    exact ⟨⟨top, low⟩, member, rfl⟩

/-- Where a chain leads up from one person to another, links lead from the number of the one to that of the other. -/
theorem Joins.reaches_of_ascends {low top : PersonId} {steps : Nat}
    (chain : Ascends (fun up down => ⟨up, down⟩ ∈ links) steps low top) :
    Relation.ReflTransGen graph.Climbs (graph.people.idxOf low) (graph.people.idxOf top) := by
  induction chain with
  | refl => exact .refl
  | step _ up ih => exact ih.tail ((joins.climbs_iff _ _).mpr ⟨_, (joins.known _ up).1, rfl, up⟩)

/-- From the number of a person links lead up exactly to the numbers of those to whom chains lead up. -/
theorem Joins.reaches_iff {low : PersonId} (known : low ∈ graph.people) (number : Nat) :
    Relation.ReflTransGen graph.Climbs (graph.people.idxOf low) number ↔
      ∃ top ∈ graph.people, number = graph.people.idxOf top ∧
        ∃ steps, Ascends (fun up down => ⟨up, down⟩ ∈ links) steps low top := by
  constructor
  · -- The steps are followed one by one, and after each of them the number is that of a person.
    intro reached
    induction reached with
    | refl => exact ⟨low, known, rfl, 0, .refl low⟩
    | tail _ climbs ih =>
      obtain ⟨middle, _, rfl, steps, chain⟩ := ih
      obtain ⟨top, topKnown, same, up⟩ := (joins.climbs_iff middle _).mp climbs
      exact ⟨top, topKnown, same, steps + 1, chain.step up⟩
  · rintro ⟨top, _, rfl, steps, chain⟩
    exact joins.reaches_of_ascends chain

/-- Two people have numbers that are together exactly if chains lead up from each of them to the other. -/
theorem Joins.together_iff {one other : PersonId} (oneKnown : one ∈ graph.people) (otherKnown : other ∈ graph.people) :
    graph.Together (graph.people.idxOf one) (graph.people.idxOf other) ↔
      (∃ steps, Ascends (fun up down => ⟨up, down⟩ ∈ links) steps one other) ∧
        ∃ steps, Ascends (fun up down => ⟨up, down⟩ ∈ links) steps other one := by
  -- The person whom a chain leads to is found by the number.
  have ascends : ∀ {low top : PersonId}, low ∈ graph.people → top ∈ graph.people →
      Relation.ReflTransGen graph.Climbs (graph.people.idxOf low) (graph.people.idxOf top) →
        ∃ steps, Ascends (fun up down => ⟨up, down⟩ ∈ links) steps low top := by
    intro low top lowKnown topKnown reached
    obtain ⟨found, _, same, chain⟩ := (joins.reaches_iff lowKnown _).mp reached
    exact (List.idxOf_inj topKnown).mp same ▸ chain
  constructor
  · rintro ⟨forth, back⟩
    exact ⟨ascends oneKnown otherKnown forth, ascends otherKnown oneKnown back⟩
  · rintro ⟨⟨_, up⟩, _, down⟩
    exact ⟨joins.reaches_of_ascends up, joins.reaches_of_ascends down⟩

/-- Links lead from some number around to it exactly if a chain leads from some person around to that person. -/
theorem Joins.exists_circle_iff : (∃ number, Relation.TransGen graph.Climbs number number) ↔
    ∃ id steps, Ascends (fun up down => ⟨up, down⟩ ∈ links) (steps + 1) id id := by
  constructor
  · rintro ⟨number, around⟩
    obtain ⟨next, climbs, rest⟩ := Relation.TransGen.head'_iff.mp around
    -- The first link is that of two people, and the way back leads to the lower of them.
    rw [Climbs, joins.links] at climbs
    obtain ⟨link, member, same⟩ := List.mem_map.mp climbs
    obtain ⟨rfl, rfl⟩ := Prod.mk.inj same
    obtain ⟨topKnown, lowKnown⟩ := joins.known link member
    obtain ⟨id, _, equal, steps, chain⟩ := (joins.reaches_iff topKnown _).mp rest
    obtain rfl := (List.idxOf_inj lowKnown).mp equal
    exact ⟨link.parent, steps, chain.step member⟩
  · -- The first step is one link, and the rest leads back to where it starts.
    rintro ⟨id, steps, chain⟩
    obtain ⟨next, up, rest⟩ := chain.first_step
    have climbs := (joins.climbs_iff id _).mpr ⟨next, (joins.known _ up).1, rfl, up⟩
    exact ⟨_, Relation.TransGen.head' climbs (joins.reaches_of_ascends rest)⟩

/-- Whatever is together with a number of the graph is a number of it. -/
theorem Joins.inside_of_together {one other : Nat} (inside : one < graph.people.length)
    (together : graph.Together one other) : other < graph.people.length := by
  obtain ⟨id, known, rfl⟩ := joins.exists_idxOf_eq inside
  obtain ⟨top, topKnown, rfl, _⟩ := (joins.reaches_iff known other).mp together.forth
  exact List.idxOf_lt_length_iff.mpr topKnown

/-- The graph has components: for each number with which no lesser one is together, those that are. -/
theorem Joins.exists_components : ∃ components, graph.AreComponents components := by
  classical
  let numbers := List.range graph.people.length
  let component (number : Nat) := numbers.filter fun other => graph.Together number other
  let least := numbers.filter fun number => ∀ lesser < number, ¬graph.Together lesser number
  refine ⟨least.map component, (List.perm_ext_iff_of_nodup ?_ List.nodup_range).mpr fun number => ?_, ?_⟩
  · refine List.nodup_flatten.mpr ⟨List.forall_mem_map.mpr fun _ _ => List.nodup_range.filter _, ?_⟩
    -- Of two numbers whose components share one the greater would not be least.
    refine List.pairwise_map.mpr ((List.pairwise_lt_range.filter _).imp_of_mem fun {one other} _ listed before => ?_)
    intro shared inOne inOther
    have free := of_decide_eq_true (List.mem_filter.mp listed).2 one before
    have first := of_decide_eq_true (List.mem_filter.mp inOne).2
    have second := of_decide_eq_true (List.mem_filter.mp inOther).2
    exact free (first.trans second.symm)
  · simp only [List.mem_flatten, List.mem_map]
    constructor
    · rintro ⟨_, ⟨_, _, rfl⟩, member⟩
      exact (List.mem_filter.mp member).1
    · intro inside
      -- The component is that of the least number together with this one.
      have some : ∃ first, graph.Together first number := ⟨number, .refl number⟩
      have together := Nat.find_spec some
      have below := joins.inside_of_together (List.mem_range.mp inside) together.symm
      refine ⟨_, ⟨Nat.find some, List.mem_filter.mpr ⟨List.mem_range.mpr below, decide_eq_true ?_⟩, rfl⟩, ?_⟩
      · exact fun lesser before shared => Nat.find_min some before (shared.trans together)
      · exact List.mem_filter.mpr ⟨inside, decide_eq_true together⟩
  · refine List.forall_mem_map.mpr fun first _ one member other => ?_
    obtain ⟨inside, together⟩ := List.mem_filter.mp member
    have forth := of_decide_eq_true together
    rw [List.mem_filter, decide_eq_true_eq]
    constructor
    · rintro ⟨_, second⟩
      exact forth.symm.trans second
    · intro both
      exact ⟨List.mem_range.mpr (joins.inside_of_together (List.mem_range.mp inside) both), forth.trans both⟩

/-- The people with some numbers are those whose numbers they are. -/
theorem Joins.mem_peopleAt_iff (numbers : List Nat) (id : PersonId) :
    id ∈ graph.peopleAt numbers ↔ id ∈ graph.people ∧ graph.people.idxOf id ∈ numbers := by
  simp only [peopleAt, mem_sortAll, List.mem_filterMap, joins.getElem?_eq_some_iff]
  constructor
  · rintro ⟨_, member, known, rfl⟩
    exact ⟨known, member⟩
  · rintro ⟨known, member⟩
    exact ⟨_, member, known, rfl⟩

/-- The people with different numbers stand in strictly increasing order. -/
theorem Joins.pairwise_peopleAt {numbers : List Nat} (nodup : numbers.Nodup) :
    (graph.peopleAt numbers).Pairwise (· < ·) := by
  -- Two numbers of one person would be the same place.
  refine increasing_mergeSort (nodup.filterMap fun one other id first second => ?_)
  rw [Option.mem_def, joins.getElem?_eq_some_iff] at first second
  exact first.2.symm.trans second.2

end Joined

namespace AreComponents

variable {graph : NumberedGraph} {components : List (List Nat)} (are : graph.AreComponents components)
include are

/-- A component has numbers of the graph. -/
theorem inside {component : List Nat} (listed : component ∈ components) (number : Nat)
    (member : number ∈ component) : number < graph.people.length :=
  List.mem_range.mp (are.cover.mem_iff.mp (List.mem_flatten.mpr ⟨component, listed, member⟩))

/-- Each number of the graph stands in a component. -/
theorem exists_component {number : Nat} (inside : number < graph.people.length) :
    ∃ component ∈ components, number ∈ component :=
  List.mem_flatten.mp (are.cover.mem_iff.mpr (List.mem_range.mpr inside))

/-- No number stands twice, neither in one component nor in two. -/
theorem nodup : (∀ component ∈ components, component.Nodup) ∧ components.Pairwise List.Disjoint :=
  List.nodup_flatten.mp (are.cover.nodup_iff.mpr List.nodup_range)

end AreComponents

end NumberedGraph

namespace Pedigree

variable (people : List Person) (edges : List ParentEdge)

/-- The links of a graph are the kept ones, as relations. -/
theorem links_ofRecords :
    (fun up down => ⟨up, down⟩ ∈ (ofRecords people edges).links) = KeptLink people edges :=
  funext fun parent => funext fun child => propext (mem_links people edges parent child)

/-- In a circle are exactly those to whom chains lead up and from whom chains lead back. -/
theorem mem_circle_iff_ascends (id other : PersonId) :
    other ∈ (ofRecords people edges).circle id ↔
      (∃ steps, Ascends (KeptLink people edges) steps id other) ∧
        ∃ steps, Ascends (KeptLink people edges) steps other id := by
  -- Chains without steps lead from a person to the same one.
  rw [mem_circle]
  constructor
  · rintro (rfl | both)
    · exact ⟨⟨0, .refl other⟩, 0, .refl other⟩
    · exact ⟨both.up, both.down⟩
  · rintro ⟨up, down⟩
    by_cases same : other = id
    · exact Or.inl same
    · exact Or.inr ⟨Ne.symm same, up, down⟩

variable {people edges} {components : List (List Nat)}

/-- The people of a component are the circle of each of them. -/
theorem peopleAt_component (are : (NumberedGraph.ofRecords people edges).AreComponents components)
    {component : List Nat} (listed : component ∈ components) {id : PersonId}
    (known : id ∈ (NumberedGraph.ofRecords people edges).people)
    (member : (NumberedGraph.ofRecords people edges).people.idxOf id ∈ component) :
    (NumberedGraph.ofRecords people edges).peopleAt component = (ofRecords people edges).circle id := by
  have joins := NumberedGraph.joins_ofRecords people edges
  refine eq_of_increasing_of_mem (joins.pairwise_peopleAt (are.nodup.1 component listed)) (pairwise_sortIds _) ?_
  intro other
  -- To be together by numbers is to have chains both ways.
  rw [joins.mem_peopleAt_iff, are.mem_iff component listed _ member, mem_circle_iff_ascends, ← links_ofRecords]
  constructor
  · rintro ⟨otherKnown, together⟩
    exact (joins.together_iff known otherKnown).mp together
  · rintro ⟨⟨steps, up⟩, down⟩
    -- Whoever stands at the end of a chain is the start or recorded as a parent.
    have otherKnown : other ∈ (NumberedGraph.ofRecords people edges).people := by
      cases up with
      | refl => exact known
      | step _ link => exact (joins.known _ link).1
    exact ⟨otherKnown, (joins.together_iff known otherKnown).mpr ⟨⟨steps, up⟩, down⟩⟩

/-- A component of more than one number is a group of people, and each group is one. -/
theorem mem_groups_iff (are : (NumberedGraph.ofRecords people edges).AreComponents components)
    (group : List PersonId) :
    group ∈ (NumberedGraph.ofRecords people edges).groups components ↔ group ∈ (ofRecords people edges).cycles := by
  have joins := NumberedGraph.joins_ofRecords people edges
  simp only [NumberedGraph.groups, List.mem_mergeSort, List.mem_map, List.mem_filter, decide_eq_true_eq]
  constructor
  · rintro ⟨component, ⟨listed, several⟩, rfl⟩
    -- One of its numbers belongs to a person, and the others to that person's circle.
    obtain ⟨number, member⟩ := List.exists_mem_of_length_pos (Nat.lt_of_succ_lt several)
    obtain ⟨id, known, rfl⟩ := joins.exists_idxOf_eq (are.inside listed number member)
    have circle := peopleAt_component are listed known member
    rw [← NumberedGraph.length_peopleAt (are.inside listed), circle] at several
    rw [circle]
    exact circle_mem_cycles people edges several
  · -- A group is the circle of its least member, and that person has a number in some component.
    intro isGroup
    obtain ⟨id, recorded, rfl, several, _⟩ := (mem_cycles people edges group).mp isGroup
    have known := (NumberedGraph.mem_people people edges id).mpr recorded
    obtain ⟨component, listed, member⟩ := are.exists_component (List.idxOf_lt_length_iff.mpr known)
    have circle := peopleAt_component are listed known member
    rw [← circle, NumberedGraph.length_peopleAt (are.inside listed)] at several
    exact ⟨component, ⟨listed, several⟩, circle⟩

/-- Two groups stand in the order of their least members, and share nobody. -/
theorem pairwise_cycles : (ofRecords people edges).cycles.Pairwise fun one other =>
    one < other ∧ one.Disjoint other := by
  have sorted : (ofRecords people edges).people.Pairwise (· < ·) := pairwise_sortIds _
  -- Each group is listed at its least member.
  refine List.pairwise_filterMap.mpr (sorted.imp fun {first second} before one listed other otherListed => ?_)
  simp only [Option.ite_none_right_eq_some, Option.some.injEq] at listed otherListed
  obtain ⟨⟨_, least⟩, rfl⟩ := listed
  obtain ⟨⟨_, otherLeast⟩, rfl⟩ := otherListed
  constructor
  · obtain ⟨_, same⟩ := List.head?_eq_some_iff.mp least
    obtain ⟨_, otherSame⟩ := List.head?_eq_some_iff.mp otherLeast
    rw [same, otherSame]
    exact List.Lex.rel before
  · -- A shared member would have both circles, and these have different least members.
    intro shared member otherMember
    rw [← circle_eq_of_mem people edges member] at least
    rw [← circle_eq_of_mem people edges otherMember, least] at otherLeast
    exact PersonId.lt_irrefl _ (Option.some.inj otherLeast ▸ before)

/-- Whatever order the components come in and their numbers have, the groups made of them are those of the graph. -/
theorem groups_eq_cycles (are : (NumberedGraph.ofRecords people edges).AreComponents components) :
    (NumberedGraph.ofRecords people edges).groups components = (ofRecords people edges).cycles := by
  have joins := NumberedGraph.joins_ofRecords people edges
  -- Two components have no number in common, and so no person.
  have different : ((components.filter fun component => 1 < component.length).map
      (NumberedGraph.ofRecords people edges).peopleAt).Nodup := by
    refine List.pairwise_map.mpr ((are.nodup.2.filter _).imp_of_mem fun {one other} oneListed _ disjoint same => ?_)
    obtain ⟨listed, several⟩ := List.mem_filter.mp oneListed
    obtain ⟨number, member⟩ := List.exists_mem_of_length_pos (Nat.lt_of_succ_lt (of_decide_eq_true several))
    obtain ⟨id, known, rfl⟩ := joins.exists_idxOf_eq (are.inside listed number member)
    have shared := (joins.mem_peopleAt_iff one id).mpr ⟨known, member⟩
    rw [same, joins.mem_peopleAt_iff] at shared
    exact disjoint member shared.2
  have sorted : ((NumberedGraph.ofRecords people edges).groups components).Pairwise (· < ·) :=
    increasing_mergeSort different
  -- Both lists of groups are increasing, and they have the same members.
  have cyclesSorted : (ofRecords people edges).cycles.Pairwise (· < ·) := pairwise_cycles.imp And.left
  exact eq_of_increasing_of_mem sorted cyclesSorted (mem_groups_iff are)

/-- Somebody stands in a group exactly if a chain with at least one step leads around to them. -/
theorem exists_cycle_iff (id : PersonId) : (∃ group ∈ (ofRecords people edges).cycles, id ∈ group) ↔
    ∃ steps, Ascends (KeptLink people edges) (steps + 1) id id := by
  rw [← exists_mutualAncestors_iff]
  constructor
  · rintro ⟨group, listed, member⟩
    obtain ⟨start, _, rfl, several, _⟩ := (mem_cycles people edges group).mp listed
    exact exists_mutualAncestors_of_circle people edges several member
  · rintro ⟨other, both⟩
    obtain ⟨_, group, listed, member, _⟩ := (inOneCycle_iff people edges id other).mpr both
    exact ⟨group, listed, member⟩

/-- There are no groups exactly if the graph is acyclic. -/
theorem isAcyclic_iff_cycles_eq_nil : (ofRecords people edges).isAcyclic ↔ (ofRecords people edges).cycles = [] := by
  rw [isAcyclic_iff]
  constructor
  · intro acyclic
    refine List.eq_nil_iff_forall_not_mem.mpr fun group listed => ?_
    obtain ⟨id, _, _, _, least⟩ := (mem_cycles people edges group).mp listed
    obtain ⟨steps, around⟩ := (exists_cycle_iff id).mp ⟨group, listed, List.mem_of_mem_head? least⟩
    exact acyclic id steps around
  · intro none id steps around
    obtain ⟨_, listed, _⟩ := (exists_cycle_iff id).mpr ⟨steps, around⟩
    simp [none] at listed

/-- A group has several members, in strictly increasing order. -/
theorem several_of_mem_cycles {group : List PersonId} (listed : group ∈ (ofRecords people edges).cycles) :
    2 ≤ group.length ∧ group.Pairwise (· < ·) := by
  obtain ⟨_, _, rfl, several, _⟩ := (mem_cycles people edges group).mp listed
  exact ⟨several, pairwise_sortIds _⟩

variable (people edges)

/-- The groups of a graph: two different people stand in one exactly if each is among the ancestors of the other; they
have nobody in common, come in increasing order and hold, each in increasing order, the people who are reached from
themselves along links. -/
structure DiagnosesCycles : Prop where
  together : ∀ a b, a ≠ b →
    ((∃ group ∈ (ofRecords people edges).cycles, a ∈ group ∧ b ∈ group) ↔
      a ∈ ((KinTable.ofRecords people edges).ancestorDistances b).keys ∧
        b ∈ ((KinTable.ofRecords people edges).ancestorDistances a).keys)
  disjoint : (ofRecords people edges).cycles.Pairwise List.Disjoint
  several : ∀ group ∈ (ofRecords people edges).cycles, 2 ≤ group.length ∧ group.Pairwise (· < ·)
  increasing : (ofRecords people edges).cycles.Pairwise (· < ·)
  covers : ∀ id, (∃ group ∈ (ofRecords people edges).cycles, id ∈ group) ↔
    id ∈ people.map Person.id ∧ ∃ steps, Ascends (KeptLink people edges) (steps + 1) id id
  acyclic : (ofRecords people edges).isAcyclic ↔ (ofRecords people edges).cycles = []
  /-- The graph in which people have numbers has these groups, whichever search finds its components. -/
  components : (∃ components, (NumberedGraph.ofRecords people edges).AreComponents components) ∧
    ∀ components, (NumberedGraph.ofRecords people edges).AreComponents components →
      (NumberedGraph.ofRecords people edges).groups components = (ofRecords people edges).cycles
  /-- So it is with whichever search finds a way around in it. -/
  circles : ∀ found : Bool,
    (found ↔ ∃ number, Relation.TransGen (NumberedGraph.ofRecords people edges).Climbs number number) →
      (!found) = (ofRecords people edges).isAcyclic

/-- Whatever the records are, the groups of their graph are exact. -/
theorem diagnosesCycles : DiagnosesCycles people edges where
  together a b differ := by
    have both := inOneCycle_iff people edges a b
    rw [InOneCycle, and_iff_right differ] at both
    rw [both, KinTable.mem_keys_ancestorDistances, KinTable.mem_keys_ancestorDistances,
      Kindred.parents_ofRecords]
    constructor
    · rintro ⟨_, up, down⟩
      exact ⟨⟨differ, down⟩, differ.symm, up⟩
    · rintro ⟨⟨_, down⟩, _, up⟩
      exact ⟨differ, up, down⟩
  disjoint := pairwise_cycles.imp And.right
  several _ listed := several_of_mem_cycles listed
  increasing := pairwise_cycles.imp And.left
  covers id := by
    rw [exists_cycle_iff]
    -- Whoever has a way around has a parent, and so is recorded.
    refine ⟨fun ⟨steps, around⟩ => ⟨?_, steps, around⟩, And.right⟩
    obtain ⟨_, up, _⟩ := around.first_step
    exact up.childKnown
  acyclic := isAcyclic_iff_cycles_eq_nil
  components := ⟨(NumberedGraph.joins_ofRecords people edges).exists_components, fun _ => groups_eq_cycles⟩
  circles found exact := by
    rw [(NumberedGraph.joins_ofRecords people edges).exists_circle_iff, links_ofRecords] at exact
    have none : (ofRecords people edges).isAcyclic ↔ Acyclic (KeptLink people edges) := isAcyclic_iff
    cases found with
    | true =>
      obtain ⟨id, steps, around⟩ := exact.mp rfl
      exact (Bool.eq_false_iff.mpr fun acyclic => none.mp acyclic id steps around).symm
    | false =>
      refine (none.mpr fun id steps around => ?_).symm
      exact absurd (exact.mpr ⟨id, steps, around⟩) Bool.false_ne_true

example : (ofRecords [⟨⟨"a"⟩, "Иван", .male, none⟩, ⟨⟨"b"⟩, "Пётр", .male, none⟩, ⟨⟨"c"⟩, "Анна", .female, none⟩]
    [⟨⟨"a"⟩, ⟨"b"⟩⟩, ⟨⟨"b"⟩, ⟨"a"⟩⟩, ⟨⟨"a"⟩, ⟨"c"⟩⟩]).cycles = [[⟨"a"⟩, ⟨"b"⟩]] := by decide

end Pedigree

end Kindred
