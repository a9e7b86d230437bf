import Kindred.Pedigree.Graph
import Kindred.Proofs.Pedigree.Table

/-! Links of which none is left out: each joins two different people of the records and stands once. -/

namespace Kindred

/-- Striking out repeated members leaves a list without any as it is. -/
theorem eraseDups_eq_self {α : Type} [DecidableEq α] {members : List α} (nodup : members.Nodup) :
    members.eraseDups = members := by
  -- Nothing behind the head is equal to it.
  induction members with
  | nil => rfl
  | cons head rest ih =>
    obtain ⟨new, tail⟩ := List.nodup_cons.mp nodup
    have others : rest.filter (fun member => !member == head) = rest := by
      refine List.filter_eq_self.mpr fun member inside => ?_
      simpa using fun same : member = head => new (same ▸ inside)
    rw [List.eraseDups_cons, others, ih tail]

/-- What is kept of a list with one member more: the member too, if it fits and is new. -/
theorem eraseDups_filter_concat {α : Type} [DecidableEq α] (fits : α → Bool) (members : List α)
    (last : α) :
    ((members ++ [last]).filter fits).eraseDups =
      if fits last ∧ last ∉ members then (members.filter fits).eraseDups ++ [last]
      else (members.filter fits).eraseDups := by
  rw [List.filter_append, List.eraseDups_append]
  by_cases fitting : fits last
  · by_cases known : last ∈ members
    · simp [fitting, known, List.removeAll]
    · simp [fitting, known, List.removeAll, List.eraseDups_cons]
  · simp [fitting, List.removeAll]

/-- The filter looks only at who is among the people. -/
theorem Pedigree.keeps_congr {ids others : List PersonId} (same : ∀ id, id ∈ ids ↔ id ∈ others) :
    keeps ids = keeps others := by
  have asked : ∀ id, ids.contains id = others.contains id := fun id => by
    rw [Bool.eq_iff_iff, List.contains_iff_mem, List.contains_iff_mem, same]
  funext edge
  rw [keeps, keeps, asked, asked]

/-- Every link is recorded once, and all are kept. -/
structure SoundLinks (people : List Person) (edges : List ParentEdge) : Prop where
  nodup : edges.Nodup
  kept : ∀ parent child, ⟨parent, child⟩ ∈ edges → KeptLink people edges parent child

namespace SoundLinks

variable {people : List Person} {edges : List ParentEdge}

/-- Without links nothing is wrong. -/
theorem nil (people : List Person) : SoundLinks people [] :=
  ⟨List.nodup_nil, by simp⟩

/-- The links stay sound as long as everybody who has one is recorded. -/
theorem among {others : List Person} (sound : SoundLinks people edges)
    (stay : ∀ id, id ∈ people.map Person.id → (∃ edge ∈ edges, edge.touches id) →
      id ∈ others.map Person.id) : SoundLinks others edges := by
  -- Only the places of the two ends among the records have changed.
  refine ⟨sound.nodup, fun parent child recorded => ?_⟩
  have link := sound.kept parent child recorded
  have parentKnown := stay parent link.parentKnown ⟨_, recorded, by simp [ParentEdge.touches]⟩
  have childKnown := stay child link.childKnown ⟨_, recorded, by simp [ParentEdge.touches]⟩
  exact ⟨link.differ, parentKnown, childKnown, recorded⟩

/-- A new link between two different people of the records can be added. -/
theorem snoc (sound : SoundLinks people edges) {parent child : PersonId} (differ : parent ≠ child)
    (parentKnown : parent ∈ people.map Person.id) (childKnown : child ∈ people.map Person.id)
    (new : ⟨parent, child⟩ ∉ edges) : SoundLinks people (edges ++ [⟨parent, child⟩]) := by
  constructor
  · -- The link does not stand there yet.
    rw [List.nodup_append]
    refine ⟨sound.nodup, by simp, fun edge member other last => ?_⟩
    rintro rfl
    exact new (List.mem_singleton.mp last ▸ member)
  · intro top low recorded
    rcases List.mem_append.mp recorded with before | last
    · have link := sound.kept top low before
      exact ⟨link.differ, link.parentKnown, link.childKnown, recorded⟩
    · cases List.mem_singleton.mp last
      exact ⟨differ, parentKnown, childKnown, recorded⟩

/-- Links can be taken away. -/
theorem filter (sound : SoundLinks people edges) (stays : ParentEdge → Bool) :
    SoundLinks people (edges.filter stays) := by
  -- Those that are left were there before.
  refine ⟨sound.nodup.filter stays, fun parent child recorded => ?_⟩
  have link := sound.kept parent child (List.mem_filter.mp recorded).1
  exact ⟨link.differ, link.parentKnown, link.childKnown, recorded⟩

/-- Of sound links the graph holds every one in its place. -/
theorem links_ofRecords (sound : SoundLinks people edges) :
    (Pedigree.ofRecords people edges).links = edges := by
  -- The filter lets every link through, and there is no repeated one to strike out.
  have through : edges.filter (Pedigree.keeps (sortIds (people.map Person.id))) = edges := by
    refine List.filter_eq_self.mpr fun edge recorded => ?_
    have link := sound.kept edge.parent edge.child recorded
    simp only [Pedigree.keeps, ParentEdge.isSelfLoop, Bool.and_eq_true, Bool.not_eq_true',
      beq_eq_false_iff_ne, List.contains_iff_mem, mem_sortIds]
    exact ⟨⟨link.differ, link.parentKnown⟩, link.childKnown⟩
  rw [Pedigree.ofRecords]
  dsimp only
  rw [through]
  exact eraseDups_eq_self sound.nodup

/-- Of sound links the kept ones are the recorded ones. -/
theorem keptLink_iff (sound : SoundLinks people edges) (parent child : PersonId) :
    KeptLink people edges parent child ↔ ⟨parent, child⟩ ∈ edges :=
  ⟨KeptLink.recorded, sound.kept parent child⟩

end SoundLinks

end Kindred
