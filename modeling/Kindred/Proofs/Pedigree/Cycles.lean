import Kindred.Pedigree.Graph
import Kindred.Proofs.Pedigree.Ascent
import Kindred.Proofs.Pedigree.Table

/-! The cycles of a graph are the groups of people who are each other's ancestors. -/

namespace Kindred

/-- Each of two different people is an ancestor of the other. -/
structure MutualAncestors (parent : PersonId → PersonId → Prop) (a b : PersonId) : Prop where
  differ : a ≠ b
  up : ∃ steps, Ascends parent steps a b
  down : ∃ steps, Ascends parent steps b a

/-- Somebody is an ancestor when a chain leads up to them and they are somebody else. -/
theorem exists_isAncestorAt_iff {parent : PersonId → PersonId → Prop} {low top : PersonId} :
    (∃ distance, IsAncestorAt parent low top distance) ↔
      top ≠ low ∧ ∃ steps, Ascends parent steps low top := by
  -- Where a chain leads, a shortest one does.
  constructor
  · rintro ⟨distance, differ, far⟩
    exact ⟨differ, distance, far.ascends⟩
  · rintro ⟨differ, steps, chain⟩
    obtain ⟨distance, far⟩ := chain.exists_isDistance
    exact ⟨distance, differ, far⟩

/-- The walk up through the rows of a table finds everybody else to whom a chain leads up. -/
theorem KinTable.mem_keys_ancestorDistances (table : KinTable) (low id : PersonId) :
    id ∈ (table.ancestorDistances low).keys ↔
      id ≠ low ∧ ∃ steps, Ascends (fun up low => up ∈ table.parents low) steps low id := by
  simp only [IdMap.mem_keys_iff, get?_ancestorDistances, exists_isAncestorAt_iff]

/-- In the table of some records it finds everybody else to whom a chain of kept links leads up. -/
theorem KinTable.mem_keys_iff_ascends (people : List Person) (edges : List ParentEdge) (low id : PersonId) :
    id ∈ ((ofRecords people edges).ancestorDistances low).keys ↔
      id ≠ low ∧ ∃ steps, Ascends (KeptLink people edges) steps low id := by
  rw [mem_keys_ancestorDistances, Kindred.parents_ofRecords]

namespace MutualAncestors

variable {parent : PersonId → PersonId → Prop} {a b c : PersonId}

/-- The other way round it is the same. -/
theorem symm (both : MutualAncestors parent a b) : MutualAncestors parent b a :=
  ⟨both.differ.symm, both.down, both.up⟩

/-- Two people who are mutual ancestors with a third one are so with each other. -/
theorem trans (first : MutualAncestors parent a b) (second : MutualAncestors parent b c)
    (differ : a ≠ c) : MutualAncestors parent a c := by
  -- The chains are joined at the person between.
  obtain ⟨_, ⟨_, upAB⟩, ⟨_, downAB⟩⟩ := first
  obtain ⟨_, ⟨_, upBC⟩, ⟨_, downBC⟩⟩ := second
  exact ⟨differ, ⟨_, upAB.trans upBC⟩, ⟨_, downBC.trans downAB⟩⟩

/-- Each of them has a parent from whom a chain leads on to the other. -/
theorem first_step (both : MutualAncestors parent a b) :
    ∃ next, parent next a ∧ ∃ steps, Ascends parent steps next b := by
  -- A chain between two different people has a first step.
  obtain ⟨differ, ⟨steps, chain⟩, _⟩ := both
  cases steps with
  | zero => exact absurd chain.eq_of_zero differ
  | succ steps =>
    obtain ⟨next, up, rest⟩ := chain.first_step
    exact ⟨next, up, steps, rest⟩

/-- A chain with at least one step leads around to each of them. -/
theorem around (both : MutualAncestors parent a b) : ∃ steps, Ascends parent (steps + 1) a a := by
  obtain ⟨next, up, steps, chain⟩ := both.first_step
  obtain ⟨more, down⟩ := both.down
  have whole := ((Ascends.refl a).step up).trans (chain.trans down)
  exact ⟨steps + more, by simpa only [Nat.add_comm] using whole⟩

end MutualAncestors

namespace Pedigree

variable (people : List Person) (edges : List ParentEdge)

/-- The people of a graph are the recorded ones. -/
theorem mem_people (id : PersonId) :
    id ∈ (ofRecords people edges).people ↔ id ∈ people.map Person.id :=
  mem_sortIds

/-- The links of a graph are the kept ones. -/
theorem mem_links (parent child : PersonId) :
    ⟨parent, child⟩ ∈ (ofRecords people edges).links ↔ KeptLink people edges parent child := by
  -- The filter asks for two different people of the records.
  simp only [ofRecords, List.mem_eraseDups, List.mem_filter, keeps, ParentEdge.isSelfLoop,
    Bool.and_eq_true, Bool.not_eq_true', beq_eq_false_iff_ne, List.contains_iff_mem, mem_sortIds]
  constructor
  · rintro ⟨recorded, ⟨differ, parentKnown⟩, childKnown⟩
    exact ⟨differ, parentKnown, childKnown, recorded⟩
  · intro kept
    exact ⟨kept.recorded, ⟨kept.differ, kept.parentKnown⟩, kept.childKnown⟩

/-- The parents of a person in a graph are those of the kept links. -/
theorem mem_parents (parent child : PersonId) :
    parent ∈ (ofRecords people edges).parents child ↔ KeptLink people edges parent child := by
  -- They are the upper ends of the links below which the person stands.
  rw [parents, mem_sortIds, ← mem_links, List.mem_map]
  constructor
  · rintro ⟨⟨top, low⟩, member, rfl⟩
    obtain ⟨inside, below⟩ := List.mem_filter.mp member
    exact of_decide_eq_true below ▸ inside
  · intro inside
    exact ⟨⟨parent, child⟩, List.mem_filter.mpr ⟨inside, decide_eq_true rfl⟩, rfl⟩

/-- The children of a person in a graph are those of the kept links. -/
theorem mem_children (parent child : PersonId) :
    child ∈ (ofRecords people edges).children parent ↔ KeptLink people edges parent child := by
  -- They are the lower ends of the links above which the person stands.
  rw [children, mem_sortIds, ← mem_links, List.mem_map]
  constructor
  · rintro ⟨⟨top, low⟩, member, rfl⟩
    obtain ⟨inside, above⟩ := List.mem_filter.mp member
    exact of_decide_eq_true above ▸ inside
  · intro inside
    exact ⟨⟨parent, child⟩, List.mem_filter.mpr ⟨inside, decide_eq_true rfl⟩, rfl⟩

/-- The parents in a graph are those of the kept links, as relations. -/
theorem parents_ofRecords :
    (fun up low => up ∈ (ofRecords people edges).parents low) = KeptLink people edges :=
  funext fun parent => funext fun child => propext (mem_parents people edges parent child)

/-- The children in a graph are those of the kept links, as relations. -/
theorem children_ofRecords :
    (fun down up => down ∈ (ofRecords people edges).children up) =
      fun child parent => KeptLink people edges parent child :=
  funext fun child => funext fun parent => propext (mem_children people edges parent child)

/-- The walk upwards reaches the ancestors of a person. -/
theorem mem_reached_parents (start id : PersonId) :
    id ∈ (ofRecords people edges).reached (ofRecords people edges).parents start ↔
      id ≠ start ∧ ∃ steps, Ascends (KeptLink people edges) steps start id := by
  -- Only the upper ends of links can be named, so there are enough rounds.
  have named : ∀ low, ∀ up ∈ (ofRecords people edges).parents low,
      up ∈ (ofRecords people edges).links.map ParentEdge.parent := fun low up member =>
    List.mem_map.mpr ⟨⟨up, low⟩, (mem_links people edges up low).mpr
      ((mem_parents people edges up low).mp member), rfl⟩
  rw [reached, mem_tops_generationsFrom named (Nat.le_of_eq (List.length_map ..)),
    parents_ofRecords, exists_isAncestorAt_iff]

/-- The walk downwards reaches the people of whom a person is an ancestor. -/
theorem mem_reached_children (start id : PersonId) :
    id ∈ (ofRecords people edges).reached (ofRecords people edges).children start ↔
      id ≠ start ∧ ∃ steps, Ascends (KeptLink people edges) steps id start := by
  -- A chain of children is a chain of parents read the other way.
  have named : ∀ up, ∀ down ∈ (ofRecords people edges).children up,
      down ∈ (ofRecords people edges).links.map ParentEdge.child := fun up down member =>
    List.mem_map.mpr ⟨⟨up, down⟩, (mem_links people edges up down).mpr
      ((mem_children people edges up down).mp member), rfl⟩
  rw [reached, mem_tops_generationsFrom named (Nat.le_of_eq (List.length_map ..)),
    children_ofRecords, exists_isAncestorAt_iff]
  refine and_congr_right fun _ => exists_congr fun steps => ⟨Ascends.reverse, Ascends.reverse⟩

/-- The circle of a person holds that person and all who are mutual ancestors with them. -/
theorem mem_circle (id other : PersonId) :
    other ∈ (ofRecords people edges).circle id ↔
      other = id ∨ MutualAncestors (KeptLink people edges) id other := by
  -- The others are reached upwards and downwards.
  rw [circle, mem_sortIds, List.mem_cons, List.mem_filter, List.contains_iff_mem,
    mem_reached_parents, mem_reached_children]
  refine or_congr Iff.rfl ⟨?_, ?_⟩
  · rintro ⟨⟨differ, up⟩, _, down⟩
    exact ⟨differ.symm, up, down⟩
  · rintro ⟨differ, up, down⟩
    exact ⟨⟨differ.symm, up⟩, differ.symm, down⟩

/-- Everybody in a circle has the same circle. -/
theorem circle_eq_of_mem {id other : PersonId}
    (member : other ∈ (ofRecords people edges).circle id) :
    (ofRecords people edges).circle other = (ofRecords people edges).circle id := by
  -- Both are increasing lists of the same people.
  refine eq_of_increasing_of_mem (pairwise_sortIds _) (pairwise_sortIds _) fun third => ?_
  rw [mem_circle, mem_circle]
  rcases (mem_circle people edges id other).mp member with same | both
  · rw [same]
  · by_cases equal : third = id
    · simp [equal, both.symm]
    · by_cases here : third = other
      · simp [here, both]
      · simp only [equal, here, false_or]
        exact ⟨fun more => both.trans more (Ne.symm equal),
          fun more => both.symm.trans more (Ne.symm here)⟩

/-- The groups of a graph are the circles of more than one person. -/
theorem mem_cycles (group : List PersonId) :
    group ∈ (ofRecords people edges).cycles ↔
      ∃ id ∈ people.map Person.id, group = (ofRecords people edges).circle id ∧
        1 < group.length ∧ group.head? = some id := by
  -- Each group is listed under its least member.
  rw [cycles, List.mem_filterMap]
  constructor
  · rintro ⟨id, known, listed⟩
    simp only [Option.ite_none_right_eq_some, Option.some.injEq] at listed
    obtain ⟨fits, rfl⟩ := listed
    exact ⟨id, (mem_people people edges id).mp known, rfl, fits⟩
  · rintro ⟨id, known, rfl, fits⟩
    exact ⟨id, (mem_people people edges id).mpr known, if_pos fits⟩

/-- In a circle of more than one person everybody has a mutual ancestor. -/
theorem exists_mutualAncestors_of_circle {id other : PersonId}
    (several : 1 < ((ofRecords people edges).circle id).length) (member : other ∈ (ofRecords people edges).circle id) :
    ∃ third, MutualAncestors (KeptLink people edges) other third := by
  rw [← circle_eq_of_mem people edges member] at several
  refine Classical.byContradiction fun nobody => ?_
  -- Otherwise the circle would be that of one person alone.
  have alone : (ofRecords people edges).circle other ⊆ [other] := by
    intro third inside
    refine List.mem_singleton.mpr (Classical.byContradiction fun differ => nobody ⟨third, ?_⟩)
    exact ((mem_circle people edges other third).mp inside).resolve_left differ
  have short := (nodup_of_increasing (pairwise_sortIds _)).length_le_of_subset alone
  exact absurd several (Nat.not_lt.mpr short)

/-- Somebody has a mutual ancestor exactly if a chain with at least one step leads around to them. -/
theorem exists_mutualAncestors_iff (id : PersonId) : (∃ other, MutualAncestors (KeptLink people edges) id other) ↔
    ∃ steps, Ascends (KeptLink people edges) (steps + 1) id id := by
  constructor
  · rintro ⟨other, both⟩
    exact both.around
  · -- The next person on the chain is one.
    rintro ⟨steps, chain⟩
    obtain ⟨next, up, rest⟩ := chain.first_step
    exact ⟨next, up.differ.symm, ⟨1, (Ascends.refl id).step up⟩, steps, rest⟩

/-- A circle of more than one person is a group. -/
theorem circle_mem_cycles {id : PersonId} (several : 1 < ((ofRecords people edges).circle id).length) :
    (ofRecords people edges).circle id ∈ (ofRecords people edges).cycles := by
  rw [mem_cycles]
  -- It is listed under its least member.
  cases listed : (ofRecords people edges).circle id with
  | nil => simp [listed] at several
  | cons least rest =>
    have member : least ∈ (ofRecords people edges).circle id := by simp [listed]
    have same := circle_eq_of_mem people edges member
    -- The least member has a parent, and so is recorded.
    obtain ⟨third, both⟩ := exists_mutualAncestors_of_circle people edges several member
    obtain ⟨_, up, _⟩ := both.first_step
    exact ⟨least, up.childKnown, (same.trans listed).symm, listed ▸ several, rfl⟩

/-- Two different people of one group of the cycles. -/
def InOneCycle (graph : Pedigree) (a b : PersonId) : Prop :=
  a ≠ b ∧ ∃ group ∈ graph.cycles, a ∈ group ∧ b ∈ group

/-- Two people stand in one group of the cycles exactly when they are mutual ancestors. -/
theorem inOneCycle_iff (a b : PersonId) :
    (ofRecords people edges).InOneCycle a b ↔ MutualAncestors (KeptLink people edges) a b := by
  constructor
  · -- A group is the circle of each of its members.
    rintro ⟨differ, group, listed, first, second⟩
    obtain ⟨id, _, rfl, _⟩ := (mem_cycles people edges group).mp listed
    rw [← circle_eq_of_mem people edges first] at second
    exact ((mem_circle people edges a b).mp second).resolve_left differ.symm
  · intro both
    -- The circle of the first has both as members.
    have first : a ∈ (ofRecords people edges).circle a :=
      (mem_circle people edges a a).mpr (Or.inl rfl)
    have second : b ∈ (ofRecords people edges).circle a :=
      (mem_circle people edges a b).mpr (Or.inr both)
    have apart : [a, b].Nodup := by simp [both.differ]
    refine ⟨both.differ, _, circle_mem_cycles people edges ?_, first, second⟩
    exact apart.length_le_of_subset (by simp [first, second])

variable {people edges}

/-- Setting founders aside keeps everybody of a set in which each has a parent. -/
theorem subset_withoutFounders {graph : Pedigree} {kept : PersonId → Prop}
    (climbs : ∀ id, kept id → ∃ up ∈ graph.parents id, kept up) {rounds : Nat}
    {left : List PersonId} (inside : ∀ id, kept id → id ∈ left) :
    ∀ id, kept id → id ∈ graph.withoutFounders rounds left := by
  -- In every round the parent who is kept is still there.
  induction rounds generalizing left with
  | zero => simpa [withoutFounders] using inside
  | succ rounds ih =>
    simp only [withoutFounders]
    split
    · exact inside
    · refine ih fun id member => List.mem_filter.mpr ⟨inside id member, ?_⟩
      obtain ⟨up, isParent, upMember⟩ := climbs id member
      exact List.any_eq_true.mpr ⟨up, isParent, by simpa using inside up upMember⟩

/-- In an acyclic graph nobody has a mutual ancestor. -/
theorem not_mutualAncestors_of_isAcyclic (acyclic : (ofRecords people edges).isAcyclic)
    (a b : PersonId) : ¬MutualAncestors (KeptLink people edges) a b := by
  -- The people from whom a chain has to take a step to reach the first one are never set aside.
  intro both
  obtain ⟨back, around⟩ := both.around
  -- Everybody from whom at least one step leads on to the first one has a parent of that kind.
  have climbs : ∀ id, (∃ steps, Ascends (KeptLink people edges) (steps + 1) id a) →
      ∃ up ∈ (ofRecords people edges).parents id,
        ∃ steps, Ascends (KeptLink people edges) (steps + 1) up a := by
    rintro id ⟨steps, chain⟩
    obtain ⟨up, isParent, rest⟩ := chain.first_step
    refine ⟨up, (mem_parents people edges up id).mpr isParent, steps + back, ?_⟩
    exact rest.trans around
  have inside : ∀ id, (∃ steps, Ascends (KeptLink people edges) (steps + 1) id a) →
      id ∈ (ofRecords people edges).people := by
    rintro id ⟨steps, chain⟩
    obtain ⟨up, isParent, _⟩ := chain.first_step
    exact (mem_people people edges id).mpr isParent.childKnown
  have left : a ∈ (ofRecords people edges).withoutFounders (ofRecords people edges).people.length
      (ofRecords people edges).people :=
    subset_withoutFounders climbs inside a ⟨back, around⟩
  rw [isAcyclic, List.isEmpty_iff] at acyclic
  rw [acyclic] at left
  simp at left

/-- Somebody in a group ranks no lower than all others. -/
theorem exists_highest (rank : PersonId → Nat) {group : List PersonId} (some : group ≠ []) :
    ∃ top ∈ group, ∀ id ∈ group, rank id ≤ rank top := by
  induction group with
  | nil => exact absurd rfl some
  | cons head rest ih =>
    by_cases alone : rest = []
    · exact ⟨head, by simp, by simp [alone]⟩
    · -- The head is compared with the highest of the others.
      obtain ⟨top, member, highest⟩ := ih alone
      by_cases higher : rank head ≤ rank top
      · exact ⟨top, by simp [member], by simpa [higher] using highest⟩
      · refine ⟨head, by simp, fun id inside => ?_⟩
        rcases List.mem_cons.mp inside with rfl | behind
        · exact Nat.le_refl _
        · have below := highest id behind
          omega

/-- Where parents rank above their children, everybody is set aside in as many rounds as there are people. -/
theorem withoutFounders_eq_nil {graph : Pedigree} (rank : PersonId → Nat)
    (rises : ∀ id, ∀ up ∈ graph.parents id, rank id < rank up) {rounds : Nat}
    {left : List PersonId} (enough : left.length ≤ rounds) : graph.withoutFounders rounds left = [] := by
  induction rounds generalizing left with
  | zero => simpa [withoutFounders] using enough
  | succ rounds ih =>
    simp only [withoutFounders]
    split
    · -- Nobody is set aside, so even the highest would have a parent among those left.
      rename_i stuck
      by_cases some : left = []
      · exact some
      · obtain ⟨top, member, highest⟩ := exists_highest rank some
        have all := List.length_filter_eq_length_iff.mp stuck top member
        obtain ⟨up, isParent, inside⟩ := List.any_eq_true.mp all
        have above := rises top up isParent
        have below := highest up (by simpa using inside)
        omega
    · rename_i fewer
      have less := List.length_filter_le (fun id => (graph.parents id).any left.contains) left
      exact ih (by omega)

/-- A graph in which parents rank above their children is acyclic. -/
theorem isAcyclic_of_rank (rank : PersonId → Nat)
    (rises : ∀ parent child, KeptLink people edges parent child → rank child < rank parent) :
    (ofRecords people edges).isAcyclic := by
  rw [isAcyclic, List.isEmpty_iff]
  refine withoutFounders_eq_nil rank (fun id up isParent => ?_) (Nat.le_refl _)
  exact rises up id ((mem_parents people edges up id).mp isParent)

end Pedigree

end Kindred
