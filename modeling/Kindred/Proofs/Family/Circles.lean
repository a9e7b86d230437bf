import Kindred.Proofs.Family.Operation
import Kindred.Proofs.Pedigree.Acyclic
import Kindred.Proofs.Phrase.WellFormed

/-! Of all that is done to a family only a new link can close a circle, and it does exactly when its child is an
ancestor of its parent. -/

namespace Kindred

namespace FamilyTree

variable {tree after : FamilyTree}

/-- The recorded links, as a relation between parents and children. -/
def IsParent (tree : FamilyTree) (parent child : PersonId) : Prop :=
  ⟨parent, child⟩ ∈ tree.edges

/-- With sound links the graph is acyclic when the recorded links are. -/
theorem Sound.isAcyclic_iff (sound : tree.Sound) : tree.graph.isAcyclic ↔ Acyclic tree.IsParent := by
  -- All recorded links are kept.
  have kept : KeptLink tree.persons tree.edges = tree.IsParent :=
    funext fun parent => funext fun child => propext (sound.keptLink_iff parent child)
  rw [graph, Pedigree.isAcyclic_iff, kept]

/-- With sound links the ancestors of a person are those to whom a chain of recorded links leads up. -/
theorem Sound.mem_ancestors_iff (sound : tree.Sound) (low id : PersonId) :
    id ∈ (tree.table.ancestorDistances low).keys ↔
      id ≠ low ∧ ∃ steps, Ascends tree.IsParent steps low id := by
  have parents : (fun up low => up ∈ tree.table.parents low) = tree.IsParent :=
    funext fun parent => funext fun child => propext (sound.mem_parents_iff parent child).1
  rw [KinTable.mem_keys_ancestorDistances, parents]

/-- Trees with the same links have the same circles. -/
theorem Sound.isAcyclic_eq (sound : tree.Sound) (soundAfter : after.Sound)
    (same : after.edges = tree.edges) : after.graph.isAcyclic = tree.graph.isAcyclic := by
  have links : after.IsParent = tree.IsParent := by
    unfold IsParent
    rw [same]
  rw [Bool.eq_iff_iff, sound.isAcyclic_iff, soundAfter.isAcyclic_iff, links]

/-- A tree with some of the links has no circle that was not there. -/
theorem Sound.isAcyclic_of_subset (sound : tree.Sound) (soundAfter : after.Sound)
    (fewer : after.edges ⊆ tree.edges) (acyclic : tree.graph.isAcyclic) : after.graph.isAcyclic := by
  rw [sound.isAcyclic_iff] at acyclic
  exact soundAfter.isAcyclic_iff.mpr (acyclic.of_subset fun parent child recorded => fewer recorded)

/-- A tree without links has no circle. -/
theorem isAcyclic_of_unlinked (unlinked : tree.edges = []) : tree.graph.isAcyclic := by
  have sound : tree.Sound := by
    rw [Sound, unlinked]
    exact SoundLinks.nil tree.persons
  refine sound.isAcyclic_iff.mpr fun id steps chain => ?_
  obtain ⟨next, up, _⟩ := chain.first_step
  simp [IsParent, unlinked] at up

/-- A link that has been added closes a circle exactly when its child is an ancestor of its parent. -/
theorem Sound.isAcyclic_addEdge_iff (sound : tree.Sound) {parent child : PersonId}
    (done : tree.addEdge parent child = .ok (true, after)) :
    after.graph.isAcyclic ↔
      tree.graph.isAcyclic ∧ child ∉ (tree.table.ancestorDistances parent).keys := by
  have soundAfter := sound.addEdge done
  obtain ⟨differ, _, _, ⟨_, impossible, _⟩ | ⟨_, _, rfl⟩⟩ := addEdge_eq_ok done
  · cases impossible
  · rw [soundAfter.isAcyclic_iff, sound.isAcyclic_iff, sound.mem_ancestors_iff,
      not_and, not_exists, imp_iff_right differ.symm, ← Acyclic.insert_iff]
    -- The link is recorded behind the others.
    have links : ∀ up down, IsParent { tree with edges := tree.edges ++ [⟨parent, child⟩] } up down ↔
        tree.IsParent up down ∨ (up = parent ∧ down = child) := by
      simp [IsParent]
    simp only [Acyclic, funext fun up => funext fun down => propext (links up down)]

/-- A phrase that takes the place of the contents brings no circle. -/
theorem isAcyclic_replaceWith_ofSentence (tree : FamilyTree) (sentence : Sentence) (source : IdSource) :
    (tree.replaceWith (CompiledGraph.ofSentence sentence source).1).graph.isAcyclic :=
  (CompiledGraph.inOrder_ofSentence sentence source).acyclic

/-- What has been compiled from a phrase brings no circle. -/
theorem isAcyclic_replaceWith (tree : FamilyTree) {text : String} {source rest : IdSource}
    {graph : CompiledGraph} (compiled : CompiledGraph.ofPhrase text source = .ok (graph, rest)) :
    (tree.replaceWith graph).graph.isAcyclic := by
  obtain ⟨_, made⟩ := CompiledGraph.ofPhrase_eq_ok compiled
  have acyclic := isAcyclic_replaceWith_ofSentence tree graph.sentence source
  rwa [made] at acyclic

/-- A phrase that is parsed brings no circle. -/
theorem isAcyclic_parsePhrase {text : String} {graph : CompiledGraph}
    (done : tree.parsePhrase text = .ok (graph, after)) : after.graph.isAcyclic := by
  obtain ⟨rest, compiled, rfl⟩ := parsePhrase_eq_ok done
  exact isAcyclic_replaceWith _ compiled

/-- If a link is added to a tree, its child is no ancestor of its parent. -/
def AddsDownwards (tree : FamilyTree) (edge : ParentEdge) : Prop :=
  -- A link that is refused, or stands there already, is not added.
  ∀ after, tree.addEdge edge.parent edge.child = .ok (true, after) →
    edge.child ∉ (tree.table.ancestorDistances edge.parent).keys

/-- Of links that are added one after the other, none has a child who is an ancestor of the parent by then. -/
def AddAllDownwards (tree : FamilyTree) : List ParentEdge → Prop
  | [] => True
  | edge :: rest => tree.AddsDownwards edge ∧ (tree.addEdgeIfValid edge).AddAllDownwards rest

/-- In a tree without circles, trying to add a link closes none exactly when it adds downwards. -/
theorem Sound.isAcyclic_addEdgeIfValid_iff (sound : tree.Sound) (acyclic : tree.graph.isAcyclic)
    (edge : ParentEdge) : (tree.addEdgeIfValid edge).graph.isAcyclic ↔ tree.AddsDownwards edge := by
  rw [FamilyTree.addEdgeIfValid, AddsDownwards]
  split
  · rename_i added after done
    cases added with
    | false =>
      -- The link stands there already.
      obtain ⟨_, _, _, ⟨_, _, rfl⟩ | ⟨_, impossible, _⟩⟩ := addEdge_eq_ok done
      · simp [done, acyclic]
      · cases impossible
    | true => simp [done, sound.isAcyclic_addEdge_iff done, acyclic]
  · rename_i refused
    simp [refused, acyclic]

/-- Trying to add a link takes none away. -/
theorem edges_subset_addEdgeIfValid (tree : FamilyTree) (edge : ParentEdge) :
    tree.edges ⊆ (tree.addEdgeIfValid edge).edges := by
  rw [addEdgeIfValid]
  split
  · rename_i done
    obtain ⟨_, _, _, ⟨_, _, rfl⟩ | ⟨_, _, rfl⟩⟩ := addEdge_eq_ok done
    · exact List.Subset.refl _
    · exact List.subset_append_left ..
  · exact List.Subset.refl _

/-- Trying to add any number of links takes none away. -/
theorem edges_subset_foldl_addEdgeIfValid (tree : FamilyTree) (edges : List ParentEdge) :
    tree.edges ⊆ (edges.foldl addEdgeIfValid tree).edges := by
  induction edges generalizing tree with
  | nil => exact List.Subset.refl _
  | cons edge rest ih => exact List.Subset.trans (edges_subset_addEdgeIfValid tree edge) (ih _)

/-- In a tree without circles, trying to add some links closes none exactly when all are added downwards. -/
theorem Sound.isAcyclic_foldl_addEdgeIfValid_iff (sound : tree.Sound) (acyclic : tree.graph.isAcyclic)
    (edges : List ParentEdge) :
    (edges.foldl FamilyTree.addEdgeIfValid tree).graph.isAcyclic ↔ tree.AddAllDownwards edges := by
  induction edges generalizing tree with
  | nil => simp [AddAllDownwards, acyclic]
  | cons edge rest ih =>
    have soundNext := sound.addEdgeIfValid edge
    rw [List.foldl_cons, AddAllDownwards, ← sound.isAcyclic_addEdgeIfValid_iff acyclic]
    constructor
    · -- A circle that the first link had closed would still be there.
      intro closed
      have next := (soundNext.foldl_addEdgeIfValid rest).isAcyclic_of_subset soundNext
        (edges_subset_foldl_addEdgeIfValid _ rest) closed
      exact ⟨next, (ih soundNext next).mp closed⟩
    · rintro ⟨next, later⟩
      exact (ih soundNext next).mpr later

end FamilyTree

/-- The links that an operation adds have no child who is an ancestor of the parent when the link is added. -/
def Operation.AddsDownwards (tree : FamilyTree) : Operation → Prop
  | .edit (.addEdge parent child) => tree.AddsDownwards ⟨parent, child⟩
  | .load document source =>
    FamilyTree.AddAllDownwards
      { persons := document.people, ids := FamilyTree.observeAll source document.people } document.relations
  | _ => True

namespace FamilyTree

variable {tree after : FamilyTree}

/-- In a run all links are added downwards. -/
def RunsDownwards (tree : FamilyTree) : List Operation → Prop
  | [] => True
  | operation :: rest => operation.AddsDownwards tree ∧ (tree.apply operation).RunsDownwards rest

/-- Adding a person closes no circle and opens none. -/
theorem Sound.isAcyclic_addPerson (sound : tree.Sound) (name : String) (sex : Sex)
    (note : Option String) : (tree.addPerson name sex note).2.graph.isAcyclic = tree.graph.isAcyclic :=
  sound.isAcyclic_eq (sound.addPerson name sex note) rfl

/-- Changing a person, but not the identifier, closes no circle and opens none. -/
theorem Sound.isAcyclic_changePerson (sound : tree.Sound) {id : PersonId} {change : Person → Person}
    (same : ∀ person, (change person).id = person.id) (done : tree.changePerson id change = .ok after) :
    after.graph.isAcyclic = tree.graph.isAcyclic :=
  sound.isAcyclic_eq (sound.changePerson same done) (known_changePerson same done).2.1

/-- Removing a link closes no circle. -/
theorem Sound.isAcyclic_removeEdge (sound : tree.Sound) (acyclic : tree.graph.isAcyclic)
    (parent child : PersonId) : (tree.removeEdge parent child).2.graph.isAcyclic :=
  sound.isAcyclic_of_subset (sound.removeEdge parent child) (List.filter_sublist.subset) acyclic

/-- Removing a person closes no circle. -/
theorem Sound.isAcyclic_removePerson (sound : tree.Sound) (acyclic : tree.graph.isAcyclic)
    (id : PersonId) : (tree.removePerson id).2.graph.isAcyclic := by
  refine sound.isAcyclic_of_subset (sound.removePerson id) ?_ acyclic
  rw [FamilyTree.removePerson]
  split
  · exact List.Subset.refl _
  · exact List.filter_sublist.subset

/-- An edit that adds no link closes no circle. -/
theorem Sound.isAcyclic_edit (sound : tree.Sound) (acyclic : tree.graph.isAcyclic) {edit : Edit}
    (other : ∀ parent child, edit ≠ .addEdge parent child) : (tree.edit edit).graph.isAcyclic := by
  have outcome := outcome_edit tree edit
  generalize tree.edit edit = after at outcome ⊢
  cases outcome with
  | same => exact acyclic
  | addPerson name sex note => exact (sound.isAcyclic_addPerson name sex note).trans acyclic
  | addEdge parent child => exact absurd rfl (other parent child)
  | removeEdge parent child => exact sound.isAcyclic_removeEdge acyclic parent child
  | removePerson id => exact sound.isAcyclic_removePerson acyclic id
  | changePerson same done => exact (sound.isAcyclic_changePerson same done).trans acyclic
  | observe id => exact acyclic
  | parse done => exact isAcyclic_parsePhrase done
  | adopt compiled => exact isAcyclic_replaceWith tree compiled

/-- In a tree without circles, an operation closes none exactly when it adds links downwards. -/
theorem Sound.isAcyclic_apply_iff (sound : tree.Sound) (acyclic : tree.graph.isAcyclic)
    (operation : Operation) : (tree.apply operation).graph.isAcyclic ↔ operation.AddsDownwards tree := by
  -- Apart from new links and documents, no operation closes a circle.
  cases operation with
  | edit edit =>
    cases edit with
    | addEdge parent child => exact sound.isAcyclic_addEdgeIfValid_iff acyclic ⟨parent, child⟩
    | _ =>
      rw [FamilyTree.apply]
      exact iff_of_true (sound.isAcyclic_edit acyclic (by simp)) trivial
  | compile text =>
    refine iff_of_true ?_ trivial
    simp only [FamilyTree.apply]
    split
    · exact acyclic
    · exact acyclic
  | replace sentence source =>
    exact iff_of_true (isAcyclic_replaceWith_ofSentence tree sentence source) trivial
  | resetIds => exact iff_of_true acyclic trivial
  | load document source =>
    -- There are no links at first, and they are tried one after the other.
    have unlinked : FamilyTree.Sound
        { persons := document.people, ids := observeAll source document.people } :=
      SoundLinks.nil document.people
    exact unlinked.isAcyclic_foldl_addEdgeIfValid_iff (isAcyclic_of_unlinked rfl) document.relations
  | clear => exact iff_of_true (isAcyclic_of_unlinked rfl) trivial

/-- Along a run from a tree without circles there is never one exactly when all links are added downwards. -/
theorem Sound.isAcyclic_run_iff (sound : tree.Sound) (acyclic : tree.graph.isAcyclic)
    (operations : List Operation) :
    (∀ before later, operations = before ++ later → (tree.run before).graph.isAcyclic) ↔
      tree.RunsDownwards operations := by
  induction operations generalizing tree with
  | nil => simpa [RunsDownwards, FamilyTree.run] using acyclic
  | cons operation rest ih =>
    rw [RunsDownwards, ← sound.isAcyclic_apply_iff acyclic]
    constructor
    · intro always
      have next : (tree.apply operation).graph.isAcyclic := always [operation] rest rfl
      refine ⟨next, (ih (sound.apply operation) next).mp ?_⟩
      rintro before later rfl
      exact always (operation :: before) later rfl
    · rintro ⟨next, downwards⟩ before later split
      have always := (ih (sound.apply operation) next).mpr downwards
      cases before with
      | nil => exact acyclic
      | cons first before =>
        obtain ⟨rfl, rest⟩ := List.cons.inj split
        exact always before later rest

/-- What the ways of changing a tree do to its circles. -/
structure GuardsCircles (tree : FamilyTree) : Prop where
  addEdge : ∀ parent child after, tree.addEdge parent child = .ok (true, after) →
    (after.graph.isAcyclic ↔
      tree.graph.isAcyclic ∧ child ∉ (tree.table.ancestorDistances parent).keys)
  addPerson : ∀ name sex note,
    (tree.addPerson name sex note).2.graph.isAcyclic = tree.graph.isAcyclic
  rename : ∀ id name after, tree.rename id name = .ok after →
    after.graph.isAcyclic = tree.graph.isAcyclic
  setNote : ∀ id note after, tree.setNote id note = .ok after →
    after.graph.isAcyclic = tree.graph.isAcyclic
  removeEdge : ∀ parent child, tree.graph.isAcyclic →
    (tree.removeEdge parent child).2.graph.isAcyclic
  removePerson : ∀ id, tree.graph.isAcyclic → (tree.removePerson id).2.graph.isAcyclic
  parse : ∀ text graph after, tree.parsePhrase text = .ok (graph, after) → after.graph.isAcyclic
  adopt : ∀ text source graph rest, CompiledGraph.ofPhrase text source = .ok (graph, rest) →
    (tree.replaceWith graph).graph.isAcyclic
  run : ∀ operations, tree.graph.isAcyclic →
    ((∀ before later, operations = before ++ later → (tree.run before).graph.isAcyclic) ↔
      tree.RunsDownwards operations)

/-- With sound links, only a link whose child is an ancestor of its parent closes a circle. -/
theorem Sound.guardsCircles (sound : tree.Sound) : tree.GuardsCircles where
  addEdge _ _ _ := sound.isAcyclic_addEdge_iff
  addPerson := sound.isAcyclic_addPerson
  rename _ _ _ := sound.isAcyclic_changePerson fun _ => rfl
  setNote _ _ _ := sound.isAcyclic_changePerson fun _ => rfl
  removeEdge parent child acyclic := sound.isAcyclic_removeEdge acyclic parent child
  removePerson id acyclic := sound.isAcyclic_removePerson acyclic id
  parse _ _ _ := isAcyclic_parsePhrase
  adopt _ _ _ _ := isAcyclic_replaceWith tree
  run operations acyclic := sound.isAcyclic_run_iff acyclic operations

/-- After any operations, with documents of any kind among them, only a link whose child is an ancestor of its
parent closes a circle. -/
theorem guardsCircles_run (source : IdSource) (operations : List Operation) :
    (FamilyTree.run { ids := source } operations).GuardsCircles := by
  have unlinked : FamilyTree.Sound { ids := source } := SoundLinks.nil []
  exact (unlinked.run operations).guardsCircles

/-- A grandchild who becomes the parent of a grandparent closes a circle that was not there. -/
theorem guardsCircles_run_over_three_generations :
    let tree := FamilyTree.run { ids := {} } [.edit (.addPerson "Анна" .female none),
      .edit (.addPerson "Иван" .male none), .edit (.addPerson "Лев" .male none),
      .edit (.addEdge ⟨"p1"⟩ ⟨"p2"⟩), .edit (.addEdge ⟨"p2"⟩ ⟨"p3"⟩)]
    ∃ after, tree.addEdge ⟨"p3"⟩ ⟨"p1"⟩ = .ok (true, after) ∧ tree.graph.isAcyclic ∧
      ¬after.graph.isAcyclic := by
  have guards := guardsCircles_run {} [.edit (.addPerson "Анна" .female none),
    .edit (.addPerson "Иван" .male none), .edit (.addPerson "Лев" .male none),
    .edit (.addEdge ⟨"p1"⟩ ⟨"p2"⟩), .edit (.addEdge ⟨"p2"⟩ ⟨"p3"⟩)]
  refine ⟨_, rfl, by decide, fun acyclic => ?_⟩
  exact ((guards.addEdge ⟨"p3"⟩ ⟨"p1"⟩ _ rfl).mp acyclic).2 (by decide)

end FamilyTree

end Kindred
