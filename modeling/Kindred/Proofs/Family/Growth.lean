import Kindred.Proofs.Classify.Growth
import Kindred.Proofs.Family.Operation

/-! Whoever is related in a family stays so when people and links are added, and whoever is not stays so when they
are taken away. -/

namespace Kindred

/-- An operation takes neither a person nor a link away. -/
def Operation.TakesNothing : Operation → Prop
  | .edit (.removeEdge ..) | .edit (.removePerson _) => False
  -- New contents take the old ones away.
  | .edit (.parse _) | .edit (.adopt ..) | .replace .. | .load .. | .clear => False
  | _ => True

/-- An operation enters neither a person nor a link. -/
def Operation.AddsNothing : Operation → Prop
  | .edit (.addPerson ..) | .edit (.addEdge ..) => False
  | .edit (.parse _) | .edit (.adopt ..) | .replace .. | .load .. => False
  | _ => True

namespace FamilyTree

variable {tree after : FamilyTree}

/-- Another tree has everybody and every kept link of a tree, and perhaps more. -/
def Grows (tree after : FamilyTree) : Prop :=
  Extends tree.persons tree.edges after.persons after.edges

/-- A tree has all that it has. -/
theorem Grows.refl (tree : FamilyTree) : Grows tree tree :=
  .of_subset (fun _ known => known) (List.Subset.refl _)

/-- Entering a person takes nothing away. -/
theorem grows_addPerson (tree : FamilyTree) (name : String) (sex : Sex) (note : Option String) :
    Grows tree (tree.addPerson name sex note).2 := by
  refine .of_subset (fun id known => ?_) (List.Subset.refl _)
  simp only [addPerson, List.map_append]
  exact List.mem_append_left _ known

/-- Adding a link takes nothing away. -/
theorem grows_addEdge {parent child : PersonId} {added : Bool}
    (done : tree.addEdge parent child = .ok (added, after)) : Grows tree after := by
  obtain ⟨_, _, _, ⟨_, _, rfl⟩ | ⟨_, _, rfl⟩⟩ := addEdge_eq_ok done
  · -- The link was there already, and the tree is the same.
    exact .refl after
  · -- A new link stands behind the others.
    exact .of_subset (fun _ known => known) (List.subset_append_left ..)

/-- Trying to add a link takes nothing away. -/
theorem grows_addEdgeIfValid (tree : FamilyTree) (edge : ParentEdge) : Grows tree (tree.addEdgeIfValid edge) := by
  rw [addEdgeIfValid]
  split
  · rename_i done
    exact grows_addEdge done
  · exact .refl tree

/-- Before a link was removed there was all that is there now. -/
theorem grows_of_removeEdge (tree : FamilyTree) (parent child : PersonId) :
    Grows (tree.removeEdge parent child).2 tree :=
  -- The links that are left are some of those before.
  .of_subset (fun _ known => known) List.filter_sublist.subset

/-- Before somebody was removed there was all that is there now. -/
theorem grows_of_removePerson (tree : FamilyTree) (id : PersonId) : Grows (tree.removePerson id).2 tree := by
  rw [removePerson]
  split
  · exact .refl tree
  · -- The people and the links that are left are some of those before.
    exact .of_subset (fun _ known => (List.eraseP_sublist.map Person.id).subset known) List.filter_sublist.subset

/-- Changing a person, but not the identifier, takes nothing away and adds nothing. -/
theorem grows_changePerson {id : PersonId} {change : Person → Person}
    (same : ∀ person, (change person).id = person.id) (done : tree.changePerson id change = .ok after) :
    Grows tree after ∧ Grows after tree := by
  obtain ⟨people, edges, _⟩ := known_changePerson same done
  rw [known, known] at people
  constructor
  · exact .of_subset (by simp [people]) (by simp [edges])
  · exact .of_subset (by simp [people]) (by simp [edges])

/-- After an operation that takes nothing away all is there still. -/
theorem grows_apply {operation : Operation} (takesNothing : operation.TakesNothing) :
    Grows tree (tree.apply operation) := by
  cases operation with
  | edit edit =>
    have outcome := outcome_edit tree edit
    rw [apply]
    generalize tree.edit edit = after at outcome ⊢
    cases outcome with
    | same => exact .refl tree
    | addPerson name sex note => exact grows_addPerson tree name sex note
    | addEdge parent child => exact grows_addEdgeIfValid tree ⟨parent, child⟩
    | changePerson same done => exact (grows_changePerson same done).1
    | observe id => exact .refl tree
    -- The others take something away.
    | removeEdge | removePerson | parse | adopt => exact takesNothing.elim
  | compile text =>
    rw [apply]
    split
    · exact .refl tree
    · exact .refl tree
  | resetIds => exact .refl tree
  | replace | load | clear => exact takesNothing.elim

/-- Before an operation that adds nothing there was all that is there now. -/
theorem grows_of_apply {operation : Operation} (addsNothing : operation.AddsNothing) :
    Grows (tree.apply operation) tree := by
  cases operation with
  | edit edit =>
    have outcome := outcome_edit tree edit
    rw [apply]
    generalize tree.edit edit = after at outcome ⊢
    cases outcome with
    | same => exact .refl tree
    | removeEdge parent child => exact grows_of_removeEdge tree parent child
    | removePerson id => exact grows_of_removePerson tree id
    | changePerson same done => exact (grows_changePerson same done).2
    | observe id => exact .refl tree
    | addPerson | addEdge | parse | adopt => exact addsNothing.elim
  | compile text =>
    rw [apply]
    split
    · exact .refl tree
    · exact .refl tree
  | resetIds => exact .refl tree
  | clear => exact .of_subset (by simp [apply]) (by simp [apply])
  | replace | load => exact addsNothing.elim

/-- After operations that take nothing away all is there still. -/
theorem grows_run (tree : FamilyTree) {operations : List Operation}
    (takeNothing : ∀ operation ∈ operations, operation.TakesNothing) : Grows tree (tree.run operations) := by
  induction operations generalizing tree with
  | nil => exact .refl tree
  | cons operation rest ih =>
    -- What the first operation has left is there after the others.
    obtain ⟨first, later⟩ := List.forall_mem_cons.mp takeNothing
    exact (grows_apply first).trans (ih (tree.apply operation) later)

/-- Before operations that add nothing there was all that is there now. -/
theorem grows_of_run (tree : FamilyTree) {operations : List Operation}
    (addNothing : ∀ operation ∈ operations, operation.AddsNothing) : Grows (tree.run operations) tree := by
  induction operations generalizing tree with
  | nil => exact .refl tree
  | cons operation rest ih =>
    obtain ⟨first, later⟩ := List.forall_mem_cons.mp addNothing
    exact Extends.trans (ih (tree.apply operation) later) (grows_of_apply first)

/-- After a change of a tree all ancestors are ones still and stand no further up, and all who were related are. -/
def KeepsKinship (tree after : FamilyTree) : Prop :=
  Kindred.KeepsKinship tree.persons tree.edges after.persons after.edges

/-- What the ways of adding to a tree and of taking from it do to kinship. What is said of a removal is said from the
tree after it back to the tree before it: whoever is related after it was so before. -/
structure GuardsKinship (tree : FamilyTree) : Prop where
  addPerson : ∀ name sex note, tree.KeepsKinship (tree.addPerson name sex note).2
  addEdge : ∀ parent child added after, tree.addEdge parent child = .ok (added, after) → tree.KeepsKinship after
  removeEdge : ∀ parent child, (tree.removeEdge parent child).2.KeepsKinship tree
  removePerson : ∀ id, (tree.removePerson id).2.KeepsKinship tree
  /-- The same goes for any number of operations. -/
  takeNothing : ∀ operations : List Operation, (∀ operation ∈ operations, operation.TakesNothing) →
    tree.KeepsKinship (tree.run operations)
  addNothing : ∀ operations : List Operation, (∀ operation ∈ operations, operation.AddsNothing) →
    (tree.run operations).KeepsKinship tree

/-- No addition ends a kinship, and no removal begins one, whatever identifiers and links a tree has. -/
theorem guardsKinship (tree : FamilyTree) : tree.GuardsKinship where
  addPerson name sex note := (grows_addPerson tree name sex note).keepsKinship
  addEdge _ _ _ _ done := (grows_addEdge done).keepsKinship
  removeEdge parent child := (grows_of_removeEdge tree parent child).keepsKinship
  removePerson id := (grows_of_removePerson tree id).keepsKinship
  takeNothing _ all := (grows_run tree all).keepsKinship
  addNothing _ all := (grows_of_run tree all).keepsKinship

end FamilyTree

/-- More data never ends a kinship. Records that hold everybody and every kept link of other ones keep their
kinship, and so do the trees of a family when something is added, and those before something was removed. -/
theorem moreData_keepsKinship :
    (∀ people edges people' edges', Extends people edges people' edges' →
      KeepsKinship people edges people' edges') ∧
    ∀ tree : FamilyTree, tree.GuardsKinship :=
  ⟨fun _ _ _ _ more => more.keepsKinship, FamilyTree.guardsKinship⟩

/-- Two cousins stay related when somebody is entered and their grandmother is made a parent of one of them: she stands
no further up, and they have no farther common ancestor. A stranger to both is none of their kin after the grandmother
has been removed. -/
theorem moreData_keepsKinship_of_cousins :
    let people : List Person := [⟨⟨"a"⟩, "Анна", .female, none⟩, ⟨⟨"b"⟩, "Борис", .male, none⟩,
      ⟨⟨"f"⟩, "Фёдор", .male, none⟩, ⟨⟨"g"⟩, "Галина", .female, none⟩, ⟨⟨"m"⟩, "Мария", .female, none⟩,
      ⟨⟨"s"⟩, "Семён", .male, none⟩]
    let edges : List ParentEdge := [⟨⟨"g"⟩, ⟨"m"⟩⟩, ⟨⟨"g"⟩, ⟨"f"⟩⟩, ⟨⟨"m"⟩, ⟨"a"⟩⟩, ⟨⟨"f"⟩, ⟨"b"⟩⟩, ⟨⟨"x"⟩, ⟨"a"⟩⟩]
    let people' : List Person := ⟨⟨"h"⟩, "Иван", .male, none⟩ :: people
    let edges' : List ParentEdge := [⟨⟨"f"⟩, ⟨"b"⟩⟩, ⟨⟨"g"⟩, ⟨"a"⟩⟩, ⟨⟨"m"⟩, ⟨"a"⟩⟩, ⟨⟨"g"⟩, ⟨"f"⟩⟩, ⟨⟨"g"⟩, ⟨"m"⟩⟩]
    let tree : FamilyTree := { persons := people, edges := edges }
    Extends people edges people' edges' ∧
      (∃ nearer, nearer ≤ 2 ∧ ((KinTable.ofRecords people' edges').ancestorDistances ⟨"a"⟩).get? ⟨"g"⟩ = some nearer) ∧
      (classify {} people' edges' ⟨"a"⟩ ⟨"b"⟩).isFound ∧
      (∃ nearer, CommonAncestor.resolve? ((KinTable.ofRecords people' edges').ancestorDistances ⟨"a"⟩)
          ((KinTable.ofRecords people' edges').ancestorDistances ⟨"b"⟩) = some nearer ∧
        nearer.distanceA + nearer.distanceB ≤ 4) ∧
      ¬((tree.removePerson ⟨"g"⟩).2.classify {} ⟨"a"⟩ ⟨"s"⟩).isFound := by
  intro people edges people' edges' tree
  -- The link to somebody who is not recorded is not kept, and need not be there.
  have more : Extends people edges people' edges' := .of_links (by decide) (by decide)
  have keeps := moreData_keepsKinship.1 people edges people' edges' more
  have guards := moreData_keepsKinship.2 tree
  refine ⟨more, keeps.ancestors _ _ 2 (by decide), keeps.related {} _ _ (by decide),
    keeps.common _ _ ⟨⟨"g"⟩, 2, 2⟩ (by decide), fun found => ?_⟩
  exact absurd ((guards.removePerson ⟨"g"⟩).related {} _ _ found) (by decide)

end Kindred
