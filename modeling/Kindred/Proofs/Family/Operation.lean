import Kindred.Proofs.Family.Tree

/-! Runs of operations on a family, and what holds of the links after any of them. -/

namespace Kindred

/-- What an editor does to a tree. -/
inductive Edit where
  | addPerson (name : String) (sex : Sex) (note : Option String)
  | addEdge (parent child : PersonId)
  | removeEdge (parent child : PersonId)
  | removePerson (id : PersonId)
  | rename (id : PersonId) (name : String)
  | setNote (id : PersonId) (note : Option String)
  | observe (id : PersonId)
  /-- A phrase takes the place of the contents, with identifiers from the tree's own source. -/
  | parse (text : String)
  /-- A phrase takes the place of the contents, with identifiers from another source. -/
  | adopt (text : String) (source : IdSource)

/-- Whatever is done to a tree: an edit, or a new beginning of some kind. -/
inductive Operation where
  | edit (edit : Edit)
  /-- A phrase is compiled with the tree's own source and not put anywhere. -/
  | compile (text : String)
  /-- A sentence, compiled at any time with any source, takes the place of the contents. -/
  | replace (sentence : Sentence) (source : IdSource)
  | resetIds
  | load (document : FamilyDocument) (source : IdSource)
  | clear

namespace FamilyTree

/-- The tree after an edit. One that fails leaves it as it was. -/
def edit (tree : FamilyTree) : Edit → FamilyTree
  | .addPerson name sex note => (tree.addPerson name sex note).2
  | .addEdge parent child => tree.addEdgeIfValid ⟨parent, child⟩
  | .removeEdge parent child => (tree.removeEdge parent child).2
  | .removePerson id => (tree.removePerson id).2
  | .rename id name =>
    match tree.rename id name with
    | .ok after => after
    | .error _ => tree
  | .setNote id note =>
    match tree.setNote id note with
    | .ok after => after
    | .error _ => tree
  | .observe id => tree.observe id
  | .parse text =>
    match tree.parsePhrase text with
    | .ok (_, after) => after
    | .error _ => tree
  | .adopt text source =>
    match CompiledGraph.ofPhrase text source with
    | .ok (graph, _) => tree.replaceWith graph
    | .error _ => tree

/-- The tree after an operation. -/
def apply (tree : FamilyTree) : Operation → FamilyTree
  | .edit edit => tree.edit edit
  | .compile text =>
    match CompiledGraph.ofPhrase text tree.ids with
    | .ok (_, ids) => { tree with ids := ids }
    | .error _ => tree
  | .replace sentence source => tree.replaceWith (CompiledGraph.ofSentence sentence source).1
  | .resetIds => tree.resetIds
  | .load document source => ofDocument document source
  | .clear => {}

/-- The tree after some operations, one after the other. -/
def run (tree : FamilyTree) (operations : List Operation) : FamilyTree :=
  operations.foldl apply tree

variable {tree : FamilyTree}

/-- What comes of an edit: the tree is left as it was, or one of the changes has been made. -/
inductive Outcome (tree : FamilyTree) : Edit → FamilyTree → Prop
  | same (edit : Edit) : Outcome tree edit tree
  | addPerson (name : String) (sex : Sex) (note : Option String) :
    Outcome tree (.addPerson name sex note) (tree.addPerson name sex note).2
  | addEdge (parent child : PersonId) : Outcome tree (.addEdge parent child) (tree.addEdgeIfValid ⟨parent, child⟩)
  | removeEdge (parent child : PersonId) :
    Outcome tree (.removeEdge parent child) (tree.removeEdge parent child).2
  | removePerson (id : PersonId) : Outcome tree (.removePerson id) (tree.removePerson id).2
  /-- Somebody has got another name or note. -/
  | changePerson {edit : Edit} {id : PersonId} {change : Person → Person} {after : FamilyTree}
    (same : ∀ person, (change person).id = person.id) (done : tree.changePerson id change = .ok after)
    (other : ∀ parent child, edit ≠ .addEdge parent child) : Outcome tree edit after
  | observe (id : PersonId) : Outcome tree (.observe id) (tree.observe id)
  | parse {text : String} {graph : CompiledGraph} {after : FamilyTree}
    (done : tree.parsePhrase text = .ok (graph, after)) : Outcome tree (.parse text) after
  | adopt {text : String} {source : IdSource} {graph : CompiledGraph} {rest : IdSource}
    (compiled : CompiledGraph.ofPhrase text source = .ok (graph, rest)) :
    Outcome tree (.adopt text source) (tree.replaceWith graph)

/-- Each edit has one of these outcomes. -/
theorem outcome_edit (tree : FamilyTree) (edit : Edit) : Outcome tree edit (tree.edit edit) := by
  -- Four kinds of edits may fail, and then nothing has been made of the tree.
  cases edit with
  | addPerson name sex note => exact .addPerson name sex note
  | addEdge parent child => exact .addEdge parent child
  | removeEdge parent child => exact .removeEdge parent child
  | removePerson id => exact .removePerson id
  | rename id name =>
    rw [FamilyTree.edit]
    split
    · rename_i done
      refine .changePerson ?_ done (by simp)
      exact fun person => rfl
    · exact .same _
  | setNote id note =>
    rw [FamilyTree.edit]
    split
    · rename_i done
      refine .changePerson ?_ done (by simp)
      exact fun person => rfl
    · exact .same _
  | observe id => exact .observe id
  | parse text =>
    rw [FamilyTree.edit]
    split
    · rename_i done
      exact .parse done
    · exact .same _
  | adopt text source =>
    rw [FamilyTree.edit]
    split
    · rename_i compiled
      exact .adopt compiled
    · exact .same _

/-- An edit leaves the links sound. -/
theorem Sound.edit (sound : tree.Sound) (edit : Edit) : (tree.edit edit).Sound := by
  -- Every change leaves them sound. A phrase's links are so by themselves, whatever stood in the tree.
  have outcome := outcome_edit tree edit
  generalize tree.edit edit = after at outcome ⊢
  cases outcome with
  | same => exact sound
  | addPerson name sex note => exact sound.addPerson name sex note
  | addEdge parent child => exact sound.addEdgeIfValid ⟨parent, child⟩
  | removeEdge parent child => exact sound.removeEdge parent child
  | removePerson id => exact sound.removePerson id
  | changePerson same done => exact sound.changePerson same done
  | observe id => exact sound
  | parse done => exact sound_parsePhrase done
  | adopt compiled => exact sound_replaceWith tree (CompiledGraph.drawnFrom_ofPhrase compiled)

/-- An operation leaves the links sound. -/
theorem Sound.apply (sound : tree.Sound) (operation : Operation) :
    (tree.apply operation).Sound := by
  -- Apart from the edits, the links stay as they are or begin anew.
  cases operation with
  | edit edit => exact sound.edit edit
  | compile text =>
    rw [FamilyTree.apply]
    split
    · exact sound
    · exact sound
  | replace sentence source =>
    exact sound_replaceWith tree (CompiledGraph.drawnFrom_ofSentence sentence source)
  | resetIds => exact sound
  | load document source => exact sound_ofDocument document source
  | clear => exact SoundLinks.nil []

/-- Any number of operations leaves the links sound. -/
theorem Sound.run (sound : tree.Sound) (operations : List Operation) :
    (tree.run operations).Sound := by
  -- The links are sound before each operation, hence after it.
  induction operations generalizing tree with
  | nil => exact sound
  | cons operation rest ih => exact ih (sound.apply operation)

/-- The links of a tree join two different people of the tree and stand there once, and neither the table
nor the graph leaves one of them out. -/
structure ShowsAllLinks (tree : FamilyTree) : Prop where
  differ : ∀ edge ∈ tree.edges, edge.parent ≠ edge.child
  once : tree.edges.Nodup
  present : ∀ edge ∈ tree.edges, edge.parent ∈ tree.known ∧ edge.child ∈ tree.known
  count : tree.graph.links.length = tree.edges.length
  parents : ∀ parent child, parent ∈ tree.parentsOf child ↔ ⟨parent, child⟩ ∈ tree.edges
  children : ∀ parent child, child ∈ tree.childrenOf parent ↔ ⟨parent, child⟩ ∈ tree.edges
  graphParents : ∀ parent child,
    parent ∈ tree.graph.parents child ↔ ⟨parent, child⟩ ∈ tree.edges
  graphChildren : ∀ parent child,
    child ∈ tree.graph.children parent ↔ ⟨parent, child⟩ ∈ tree.edges

/-- Sound links are all shown. -/
theorem Sound.showsAllLinks (sound : tree.Sound) : tree.ShowsAllLinks where
  differ edge recorded := (sound.kept edge.parent edge.child recorded).differ
  once := sound.nodup
  present edge recorded :=
    have link := sound.kept edge.parent edge.child recorded
    ⟨link.parentKnown, link.childKnown⟩
  count := by rw [sound.links_graph]
  parents parent child := (sound.mem_parents_iff parent child).1
  children parent child := (sound.mem_children_iff parent child).1
  graphParents parent child := (sound.mem_parents_iff parent child).2
  graphChildren parent child := (sound.mem_children_iff parent child).2

/-- After any operations on an empty tree with any source of identifiers, and on the tree of any document,
all links are sound and shown, even where identifiers repeat. -/
theorem showsAllLinks_run (source : IdSource) (document : FamilyDocument)
    (operations : List Operation) :
    (FamilyTree.run { ids := source } operations).ShowsAllLinks ∧
      ((ofDocument document source).run operations).ShowsAllLinks := by
  -- Both trees begin with sound links.
  have unlinked : FamilyTree.Sound { ids := source } := SoundLinks.nil []
  constructor
  · exact (unlinked.run operations).showsAllLinks
  · exact ((sound_ofDocument document source).run operations).showsAllLinks

/-- Identifiers do repeat, after a reset. -/
example : (FamilyTree.run {} [.edit (.addPerson "Анна" .female none), .resetIds,
    .edit (.addPerson "Иван" .male none)]).known = [⟨"p1"⟩, ⟨"p1"⟩] := by
  decide

end FamilyTree

end Kindred
