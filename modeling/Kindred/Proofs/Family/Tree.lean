import Kindred.Family.Tree
import Kindred.Proofs.Pedigree.Cycles
import Kindred.Proofs.Phrase.Draft

/-! Every way to change a family leaves its links sound: each joins two different people and stands once. -/

namespace Kindred

namespace FamilyTree

/-- The identifiers of the people, in the order of the tree. -/
def known (tree : FamilyTree) : List PersonId :=
  tree.persons.map Person.id

/-- Each link joins two different people of the tree, and none stands there twice. -/
def Sound (tree : FamilyTree) : Prop :=
  -- The source of identifiers plays no part.
  SoundLinks tree.persons tree.edges

variable {tree : FamilyTree}

/-- A tree has exactly the people that a search finds. -/
theorem contains_iff (tree : FamilyTree) (id : PersonId) : tree.contains id ↔ id ∈ tree.known := by
  simp [contains, person?, known, List.find?_isSome]

/-- A link that can be added joins two different people of the tree, and goes behind the others if it is
new. -/
theorem addEdge_eq_ok {parent child : PersonId} {added : Bool} {after : FamilyTree}
    (done : tree.addEdge parent child = .ok (added, after)) :
    parent ≠ child ∧ parent ∈ tree.known ∧ child ∈ tree.known ∧
      ((⟨parent, child⟩ ∈ tree.edges ∧ added = false ∧ after = tree) ∨
        (⟨parent, child⟩ ∉ tree.edges ∧ added = true ∧
          after = { tree with edges := tree.edges ++ [⟨parent, child⟩] })) := by
  -- The refusals come first, in the order of the program.
  simp only [addEdge, ParentEdge.isSelfLoop, beq_iff_eq, Bool.not_eq_true', List.contains_iff_mem] at done
  split at done
  · cases done
  · rename_i differ
    split at done
    · cases done
    · rename_i parentKnown
      split at done
      · cases done
      · rename_i childKnown
        rw [Bool.not_eq_false, contains_iff] at parentKnown childKnown
        refine ⟨differ, parentKnown, childKnown, ?_⟩
        split at done
        · rename_i there
          cases done
          exact Or.inl ⟨there, rfl, rfl⟩
        · rename_i new
          cases done
          exact Or.inr ⟨new, rfl, rfl⟩

/-- Adding a person leaves the links as they are. -/
theorem Sound.addPerson (sound : tree.Sound) (name : String) (sex : Sex) (note : Option String) :
    (tree.addPerson name sex note).2.Sound := by
  -- Everybody who was there is still there.
  refine sound.among fun id member _ => ?_
  simp only [FamilyTree.addPerson, List.map_append]
  exact List.mem_append_left _ member

/-- Adding a link leaves the links sound. -/
theorem Sound.addEdge (sound : tree.Sound) {parent child : PersonId} {added : Bool}
    {after : FamilyTree} (done : tree.addEdge parent child = .ok (added, after)) : after.Sound := by
  -- A link that stands there already is not added again.
  obtain ⟨differ, parentKnown, childKnown, ⟨_, _, rfl⟩ | ⟨new, _, rfl⟩⟩ := addEdge_eq_ok done
  · exact sound
  · exact sound.snoc differ parentKnown childKnown new

/-- Removing a link leaves the others sound. -/
theorem Sound.removeEdge (sound : tree.Sound) (parent child : PersonId) :
    (tree.removeEdge parent child).2.Sound :=
  sound.filter _

/-- Removing a person takes all links of that identifier away, so the others are sound. -/
theorem Sound.removePerson (sound : tree.Sound) (id : PersonId) :
    (tree.removePerson id).2.Sound := by
  rw [FamilyTree.removePerson]
  split
  · exact sound
  · -- Everybody with another identifier stays, whether or not somebody else has this one.
    refine (sound.filter fun edge => !edge.touches id).among fun other member touched => ?_
    obtain ⟨edge, left, ends⟩ := touched
    have differ : other ≠ id := by
      rintro rfl
      simp [ends] at left
    obtain ⟨person, inside, rfl⟩ := List.mem_map.mp member
    refine List.mem_map.mpr ⟨person, ?_, rfl⟩
    exact (List.mem_eraseP_of_neg (by simpa using differ)).mpr inside

/-- Changing a person keeps everybody's identifier. -/
theorem known_changePerson {id : PersonId} {change : Person → Person} {after : FamilyTree}
    (same : ∀ person, (change person).id = person.id)
    (done : tree.changePerson id change = .ok after) :
    after.known = tree.known ∧ after.edges = tree.edges ∧ after.ids = tree.ids := by
  -- Only one member of the list of people is rewritten.
  rw [changePerson] at done
  split at done
  · cases done
    exact ⟨map_changeFirst _ change Person.id same tree.persons, rfl, rfl⟩
  · cases done

/-- Changing a person, but not the identifier, leaves the links sound. -/
theorem Sound.changePerson (sound : tree.Sound) {id : PersonId} {change : Person → Person}
    {after : FamilyTree} (same : ∀ person, (change person).id = person.id)
    (done : tree.changePerson id change = .ok after) : after.Sound := by
  -- The same identifiers are known, and the links are the same.
  obtain ⟨people, edges, _⟩ := known_changePerson same done
  rw [Sound, edges]
  refine SoundLinks.among sound fun other member _ => ?_
  rw [← known] at member ⊢
  rwa [people]

/-- A phrase that is put in place of the contents brings sound links. -/
theorem sound_replaceWith (tree : FamilyTree) {graph : CompiledGraph} {source rest : IdSource}
    (drawn : graph.DrawnFrom source rest) : (tree.replaceWith graph).Sound :=
  drawn.links

/-- A phrase that is parsed is compiled with the tree's own source and put in place of the contents. -/
theorem parsePhrase_eq_ok {text : String} {graph : CompiledGraph} {after : FamilyTree}
    (done : tree.parsePhrase text = .ok (graph, after)) :
    ∃ rest, CompiledGraph.ofPhrase text tree.ids = .ok (graph, rest) ∧
      after = { tree with ids := rest }.replaceWith graph := by
  -- The compiler fails or the contents are replaced.
  rw [parsePhrase] at done
  cases compiled : CompiledGraph.ofPhrase text tree.ids with
  | error error =>
    rw [compiled] at done
    cases done
  | ok pair =>
    rw [compiled] at done
    cases done
    exact ⟨pair.2, rfl, rfl⟩

/-- A phrase that is parsed brings sound links. -/
theorem sound_parsePhrase {text : String} {graph : CompiledGraph} {after : FamilyTree}
    (done : tree.parsePhrase text = .ok (graph, after)) : after.Sound := by
  obtain ⟨rest, compiled, rfl⟩ := parsePhrase_eq_ok done
  exact sound_replaceWith _ (CompiledGraph.drawnFrom_ofPhrase compiled)

/-- Trying to add a link changes neither the people nor the source of identifiers. -/
theorem addEdgeIfValid_frame (tree : FamilyTree) (edge : ParentEdge) :
    (tree.addEdgeIfValid edge).persons = tree.persons ∧
      (tree.addEdgeIfValid edge).ids = tree.ids := by
  -- A link that is new is written behind the others, and any other one changes nothing.
  rw [addEdgeIfValid]
  split
  · rename_i done
    obtain ⟨_, _, _, ⟨_, _, rfl⟩ | ⟨_, _, rfl⟩⟩ := addEdge_eq_ok done <;> exact ⟨rfl, rfl⟩
  · exact ⟨rfl, rfl⟩

/-- Trying to add any number of links changes neither the people nor the source of identifiers. -/
theorem foldl_addEdgeIfValid_frame (tree : FamilyTree) (edges : List ParentEdge) :
    (edges.foldl addEdgeIfValid tree).persons = tree.persons ∧
      (edges.foldl addEdgeIfValid tree).ids = tree.ids := by
  induction edges generalizing tree with
  | nil => exact ⟨rfl, rfl⟩
  | cons edge rest ih =>
    obtain ⟨people, ids⟩ := addEdgeIfValid_frame tree edge
    obtain ⟨morePeople, moreIds⟩ := ih (tree.addEdgeIfValid edge)
    exact ⟨morePeople.trans people, moreIds.trans ids⟩

/-- Trying to add a link leaves the links sound. -/
theorem Sound.addEdgeIfValid (sound : tree.Sound) (edge : ParentEdge) :
    (tree.addEdgeIfValid edge).Sound := by
  -- A link that is refused changes nothing.
  rw [FamilyTree.addEdgeIfValid]
  split
  · rename_i done
    exact sound.addEdge done
  · exact sound

/-- Trying to add any number of links leaves the links sound. -/
theorem Sound.foldl_addEdgeIfValid (sound : tree.Sound) (edges : List ParentEdge) :
    (edges.foldl FamilyTree.addEdgeIfValid tree).Sound := by
  induction edges generalizing tree with
  | nil => exact sound
  | cons edge rest ih => exact ih (sound.addEdgeIfValid edge)

/-- A document becomes a tree with sound links, whatever its links and identifiers are. -/
theorem sound_ofDocument (document : FamilyDocument) (ids : IdSource) :
    (ofDocument document ids).Sound := by
  -- There are no links at first, and they are tried one after the other.
  have unlinked : FamilyTree.Sound
      { persons := document.people, ids := observeAll ids document.people } :=
    SoundLinks.nil document.people
  exact unlinked.foldl_addEdgeIfValid document.relations

/-- In a tree with sound links the graph leaves no link out. -/
theorem Sound.links_graph (sound : tree.Sound) : tree.graph.links = tree.edges :=
  sound.links_ofRecords

/-- In a tree with sound links the table and the graph name exactly the parents that are recorded. -/
theorem Sound.mem_parents_iff (sound : tree.Sound) (parent child : PersonId) :
    (parent ∈ tree.parentsOf child ↔ ⟨parent, child⟩ ∈ tree.edges) ∧
      (parent ∈ tree.graph.parents child ↔ ⟨parent, child⟩ ∈ tree.edges) := by
  -- Both name the kept links, and all recorded links are kept.
  rw [parentsOf, table, (KinTable.describes_ofRecords _ _).parents, graph, Pedigree.mem_parents,
    sound.keptLink_iff]
  exact ⟨Iff.rfl, Iff.rfl⟩

/-- In a tree with sound links the table and the graph name exactly the children that are recorded. -/
theorem Sound.mem_children_iff (sound : tree.Sound) (parent child : PersonId) :
    (child ∈ tree.childrenOf parent ↔ ⟨parent, child⟩ ∈ tree.edges) ∧
      (child ∈ tree.graph.children parent ↔ ⟨parent, child⟩ ∈ tree.edges) := by
  -- Both name the kept links, and all recorded links are kept.
  rw [childrenOf, table, (KinTable.describes_ofRecords _ _).children, graph, Pedigree.mem_children,
    sound.keptLink_iff]
  exact ⟨Iff.rfl, Iff.rfl⟩

end FamilyTree

end Kindred
