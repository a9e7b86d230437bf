import Kindred.Proofs.Family.Tree
import Mathlib.Data.List.Induction

/-! The tree of a document keeps the same links of it as the graph does, each at its first place, so nothing that
is derived from the links depends on which of the two has left the others out. -/

namespace Kindred

/-- The members of a list that fit, once each, in the order of their first places. -/
structure KeepsFirst {α : Type} [DecidableEq α] (fits : α → Prop) (given kept : List α) : Prop where
  mem_iff : ∀ member, member ∈ kept ↔ member ∈ given ∧ fits member
  inOrder : kept.Pairwise fun one other => given.idxOf one < given.idxOf other

/-- Striking out repeated members keeps the first of each. -/
theorem keepsFirst_eraseDups {α : Type} [DecidableEq α] (fits : α → Bool) (given : List α) :
    KeepsFirst (fun member => fits member) given (given.filter fits).eraseDups := by
  refine ⟨fun member => by simp, ?_⟩
  induction given using List.reverseRecOn with
  | nil => exact List.Pairwise.nil
  | append_singleton rest last ih =>
    -- Those before the last one keep their places.
    have places : ∀ member ∈ (rest.filter fits).eraseDups,
        (rest ++ [last]).idxOf member = rest.idxOf member := by
      intro member kept
      have inside : member ∈ rest := (List.mem_filter.mp (List.mem_eraseDups.mp kept)).1
      rw [List.idxOf_append, if_pos inside]
    have before := ih.imp_of_mem (S := fun one other =>
        (rest ++ [last]).idxOf one < (rest ++ [last]).idxOf other) fun one other less => by
      rwa [places _ one, places _ other]
    rw [eraseDups_filter_concat]
    split
    · -- A new one comes behind all of them.
      rename_i new
      refine List.pairwise_append.mpr ⟨before, List.pairwise_singleton .., fun one kept other same => ?_⟩
      have inside : one ∈ rest := (List.mem_filter.mp (List.mem_eraseDups.mp kept)).1
      rw [List.mem_singleton.mp same, places one kept, List.idxOf_append, if_neg new.2]
      exact Nat.lt_of_lt_of_le (List.idxOf_lt_length_iff.mpr inside) (Nat.le_add_left ..)
    · exact before

namespace FamilyTree

/-- A link can be added to a tree when it joins two different people and is new. -/
theorem edges_addEdgeIfValid (tree : FamilyTree) (edge : ParentEdge) :
    (tree.addEdgeIfValid edge).edges =
      if Pedigree.keeps tree.known edge ∧ edge ∉ tree.edges then tree.edges ++ [edge] else tree.edges := by
  have known : ∀ id, tree.contains id = decide (id ∈ tree.known) := fun id => by
    rw [Bool.eq_iff_iff, contains_iff, decide_eq_true_iff]
  -- The refusals are those of the filter, one after the other.
  rw [addEdgeIfValid, addEdge, Pedigree.keeps, known, known]
  by_cases loop : edge.isSelfLoop
  · simp [loop]
  · by_cases parent : edge.parent ∈ tree.known
    · by_cases child : edge.child ∈ tree.known
      · by_cases there : edge ∈ tree.edges
        · simp [loop, parent, child, there]
        · simp [loop, parent, child, there]
      · simp [loop, parent, child]
    · simp [loop, parent]

/-- Trying to add some links to a tree without any leaves the links that the graph keeps of them. -/
theorem edges_foldl_addEdgeIfValid {tree : FamilyTree} (unlinked : tree.edges = [])
    (edges : List ParentEdge) :
    (edges.foldl addEdgeIfValid tree).edges = (Pedigree.ofRecords tree.persons edges).links := by
  simp only [Pedigree.ofRecords, Pedigree.keeps_congr fun _ => mem_sortIds]
  rw [← known]
  -- The last link is added when it fits and has not been added before.
  induction edges using List.reverseRecOn with
  | nil => exact unlinked
  | append_singleton rest last ih =>
    have people : (rest.foldl addEdgeIfValid tree).known = tree.known := by
      rw [known, (foldl_addEdgeIfValid_frame tree rest).1, known]
    rw [List.foldl_append, List.foldl_cons, List.foldl_nil, edges_addEdgeIfValid, ih, people,
      eraseDups_filter_concat]
    refine if_congr (and_congr_right fun fits => not_congr ?_) rfl rfl
    rw [List.mem_eraseDups, List.mem_filter, and_iff_left fits]

/-- A tree shows a document: it has its people and, of its relations, those that join two different people, each
once and at its first place. The tables, the graphs and the classifications of the document and of the tree are
the same. -/
structure Shows (tree : FamilyTree) (document : FamilyDocument) : Prop where
  persons : tree.persons = document.people
  edges : KeepsFirst (fun edge : ParentEdge => edge.parent ≠ edge.child ∧
    edge.parent ∈ document.people.map Person.id ∧ edge.child ∈ document.people.map Person.id)
    document.relations tree.edges
  table : tree.table = KinTable.ofRecords document.people document.relations
  graph : tree.graph = Pedigree.ofRecords document.people document.relations
  cycles : tree.graph.cycles = (Pedigree.ofRecords document.people document.relations).cycles
  isAcyclic : tree.graph.isAcyclic = (Pedigree.ofRecords document.people document.relations).isAcyclic
  founders : tree.graph.founders = (Pedigree.ofRecords document.people document.relations).founders
  childless : tree.graph.childless = (Pedigree.ofRecords document.people document.relations).childless
  linkCount : tree.graph.links.length =
    (Pedigree.ofRecords document.people document.relations).links.length
  classify : ∀ options a b,
    tree.classify options a b = Kindred.classify options document.people document.relations a b

/-- The links of the tree of a document are those that the graph keeps of its relations. -/
theorem edges_ofDocument (document : FamilyDocument) (ids : IdSource) :
    (ofDocument document ids).edges = (Pedigree.ofRecords document.people document.relations).links := by
  rw [ofDocument]
  exact edges_foldl_addEdgeIfValid rfl document.relations

/-- The tree of a document shows it, whatever its relations and the source of new identifiers are. -/
theorem shows_ofDocument (document : FamilyDocument) (ids : IdSource) :
    (ofDocument document ids).Shows document := by
  have persons : (ofDocument document ids).persons = document.people :=
    (foldl_addEdgeIfValid_frame _ document.relations).1
  have edges := edges_ofDocument document ids
  have sound := sound_ofDocument document ids
  generalize ofDocument document ids = tree at persons edges sound
  -- Of the links of the tree the graph leaves none out.
  have graph : tree.graph = Pedigree.ofRecords document.people document.relations := by
    have links : tree.graph.links = (Pedigree.ofRecords document.people document.relations).links :=
      sound.links_graph.trans edges
    simp only [FamilyTree.graph, Pedigree.ofRecords, persons] at links ⊢
    rw [links]
  -- The kept links are the same, so they make the same table.
  have kept : ∀ parent child, KeptLink tree.persons tree.edges parent child ↔
      KeptLink document.people document.relations parent child := by
    intro parent child
    rw [SoundLinks.keptLink_iff sound, edges, Pedigree.mem_links]
  have table : tree.table = KinTable.ofRecords document.people document.relations := by
    have here := (KinTable.describes_ofRecords tree.persons tree.edges).congr kept
    rw [persons] at here
    rw [FamilyTree.table, persons]
    exact here.unique (KinTable.describes_ofRecords document.people document.relations)
  refine ⟨persons, ?_, table, graph, by rw [graph], by rw [graph], by rw [graph], by rw [graph],
    by rw [graph], fun options a b => ?_⟩
  · obtain ⟨_, inOrder⟩ := keepsFirst_eraseDups
      (Pedigree.keeps (sortIds (document.people.map Person.id))) document.relations
    rw [edges]
    refine ⟨fun edge => ?_, inOrder⟩
    rw [Pedigree.mem_links document.people document.relations edge.parent edge.child]
    constructor
    · intro link
      exact ⟨link.recorded, link.differ, link.parentKnown, link.childKnown⟩
    · rintro ⟨recorded, differ, parentKnown, childKnown⟩
      exact ⟨differ, parentKnown, childKnown, recorded⟩
  · rw [FamilyTree.table] at table
    simp only [FamilyTree.classify, Kindred.classify, Snapshot.ofRecords, table]
    rw [persons]

/-- A relation that is repeated, one of a person with the same person and one with a stranger are left out. -/
example : (ofDocument ⟨[⟨⟨"p7"⟩, "A", .male, none⟩, ⟨⟨"p9"⟩, "B", .female, none⟩],
    [⟨⟨"p7"⟩, ⟨"p9"⟩⟩, ⟨⟨"p7"⟩, ⟨"p9"⟩⟩, ⟨⟨"p9"⟩, ⟨"p9"⟩⟩, ⟨⟨"p7"⟩, ⟨"missing"⟩⟩]⟩ {}).edges =
      [⟨⟨"p7"⟩, ⟨"p9"⟩⟩] := by
  decide

end FamilyTree

end Kindred
