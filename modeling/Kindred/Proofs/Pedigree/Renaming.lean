import Kindred.Proofs.Pedigree.Distance
import Kindred.Proofs.Pedigree.Table
import Mathlib.Data.Set.Operations

/-! Under other identifiers, different ones for different people, the same chains lead from everybody up to the same
people. -/

namespace Kindred

/-- A relation is another one under new identifiers. Those inside a group get different ones, and the relation joins
nobody else. -/
structure Renames (rename : PersonId → PersonId) (inside : Set PersonId)
    (parent renamed : PersonId → PersonId → Prop) : Prop where
  injOn : Set.InjOn rename inside
  joined : ∀ top low, parent top low → top ∈ inside ∧ low ∈ inside
  renamed : ∀ top low, renamed top low ↔ ∃ up down, parent up down ∧ top = rename up ∧ low = rename down

namespace Renames

variable {rename : PersonId → PersonId} {inside : Set PersonId} {parent renamed : PersonId → PersonId → Prop}
  {low top : PersonId} {steps : Nat} (renames : Renames rename inside parent renamed)
include renames

/-- Under the new identifier somebody has the same parents. -/
theorem parent_iff (here : low ∈ inside) (top : PersonId) :
    renamed top (rename low) ↔ ∃ up, parent up low ∧ top = rename up := by
  rw [renames.renamed]
  -- The lower end of a link has the identifier of nobody else inside.
  constructor
  · rintro ⟨up, down, link, rfl, same⟩
    obtain rfl := renames.injOn here (renames.joined up down link).2 same
    exact ⟨up, link, rfl⟩
  · rintro ⟨up, link, rfl⟩
    exact ⟨up, low, link, rfl, rfl⟩

/-- A chain from inside does not leave the group. -/
theorem inside_of_ascends (here : low ∈ inside) (chain : Ascends parent steps low top) : top ∈ inside := by
  cases chain with
  | refl => exact here
  | step _ up => exact (renames.joined _ _ up).1

/-- Under the new identifiers the same chains lead up from somebody. -/
theorem ascends_iff (here : low ∈ inside) (top : PersonId) :
    Ascends renamed steps (rename low) top ↔ ∃ id, Ascends parent steps low id ∧ top = rename id := by
  -- In both directions the chain is followed from below, one link after the other.
  constructor
  · intro chain
    generalize start : rename low = first at chain
    induction chain with
    | refl => exact ⟨low, .refl low, start.symm⟩
    | step _ up ih =>
      obtain ⟨middle, below, rfl⟩ := ih start
      obtain ⟨id, link, rfl⟩ := (renames.parent_iff (renames.inside_of_ascends here below) _).mp up
      exact ⟨id, below.step link, rfl⟩
  · rintro ⟨id, chain, rfl⟩
    induction chain with
    | refl => exact .refl _
    | step below link ih =>
      exact (ih here).step ((renames.parent_iff (renames.inside_of_ascends here below) _).mpr ⟨_, link, rfl⟩)

/-- The distances stay. -/
theorem isDistance_iff (here : low ∈ inside) (top : PersonId) (distance : Nat) :
    IsDistance renamed (rename low) top distance ↔ ∃ id, IsDistance parent low id distance ∧ top = rename id := by
  constructor
  · rintro ⟨chain, least⟩
    obtain ⟨id, found, rfl⟩ := (renames.ascends_iff here _).mp chain
    exact ⟨id, ⟨found, fun steps other => least steps ((renames.ascends_iff here _).mpr ⟨id, other, rfl⟩)⟩, rfl⟩
  · rintro ⟨id, ⟨chain, least⟩, rfl⟩
    refine ⟨(renames.ascends_iff here _).mpr ⟨id, chain, rfl⟩, fun steps other => ?_⟩
    -- A chain to the new identifier is one to the old one.
    obtain ⟨found, shorter, same⟩ := (renames.ascends_iff here _).mp other
    obtain rfl := renames.injOn (renames.inside_of_ascends here chain)
      (renames.inside_of_ascends here shorter) same
    exact least steps shorter

/-- The ancestors stay, at the same distances. -/
theorem isAncestorAt_iff (here : low ∈ inside) (top : PersonId) (distance : Nat) :
    IsAncestorAt renamed (rename low) top distance ↔ ∃ id, IsAncestorAt parent low id distance ∧ top = rename id := by
  rw [IsAncestorAt, renames.isDistance_iff here]
  constructor
  · rintro ⟨differ, id, far, rfl⟩
    exact ⟨id, ⟨fun same => differ (same ▸ rfl), far⟩, rfl⟩
  · rintro ⟨id, ⟨differ, far⟩, rfl⟩
    refine ⟨fun same => differ ?_, id, far, rfl⟩
    exact renames.injOn (renames.inside_of_ascends here far.ascends) here same

/-- Under the new identifiers somebody is an ancestor of somebody at the same distance. -/
theorem isAncestorAt_rename_iff (here : low ∈ inside) (there : top ∈ inside) (distance : Nat) :
    IsAncestorAt renamed (rename low) (rename top) distance ↔ IsAncestorAt parent low top distance := by
  rw [renames.isAncestorAt_iff here]
  constructor
  · rintro ⟨id, far, same⟩
    obtain rfl := renames.injOn there (renames.inside_of_ascends here far.2.ascends) same
    exact far
  · exact fun far => ⟨top, far, rfl⟩

/-- Two people have common ancestors at the same distances. -/
theorem isCommon_iff {a b : PersonId} (hereA : a ∈ inside) (hereB : b ∈ inside) (common : PersonId) (k l : Nat) :
    (IsAncestorAt renamed (rename a) common k ∧ IsAncestorAt renamed (rename b) common l) ↔
      ∃ id, (IsAncestorAt parent a id k ∧ IsAncestorAt parent b id l) ∧ common = rename id := by
  constructor
  · rintro ⟨aboveA, aboveB⟩
    obtain ⟨id, farA, rfl⟩ := (renames.isAncestorAt_iff hereA _ _).mp aboveA
    have there := renames.inside_of_ascends hereA farA.2.ascends
    exact ⟨id, ⟨farA, (renames.isAncestorAt_rename_iff hereB there l).mp aboveB⟩, rfl⟩
  · rintro ⟨id, ⟨farA, farB⟩, rfl⟩
    exact ⟨(renames.isAncestorAt_iff hereA _ _).mpr ⟨id, farA, rfl⟩,
      (renames.isAncestorAt_iff hereB _ _).mpr ⟨id, farB, rfl⟩⟩

end Renames

/-- A person under a new identifier. -/
def Person.renamed (rename : PersonId → PersonId) (person : Person) : Person :=
  { person with id := rename person.id }

/-- A link between new identifiers. -/
def ParentEdge.renamed (rename : PersonId → PersonId) (edge : ParentEdge) : ParentEdge :=
  ⟨rename edge.parent, rename edge.child⟩

variable {people : List Person} {edges : List ParentEdge} {rename : PersonId → PersonId} {inside : Set PersonId}

/-- The renamed people have the new identifiers. -/
theorem mem_map_renamed (id : PersonId) :
    id ∈ (people.map (Person.renamed rename)).map Person.id ↔ ∃ old ∈ people.map Person.id, id = rename old := by
  have ids : (people.map (Person.renamed rename)).map Person.id = (people.map Person.id).map rename := by
    rw [List.map_map, List.map_map]
    rfl
  simp only [ids, List.mem_map, eq_comm]

/-- Somebody is recorded under the new identifier exactly if they are under the old one. -/
theorem rename_mem_map_renamed_iff (injOn : Set.InjOn rename inside) (known : ∀ id ∈ people.map Person.id, id ∈ inside)
    {id : PersonId} (here : id ∈ inside) :
    rename id ∈ (people.map (Person.renamed rename)).map Person.id ↔ id ∈ people.map Person.id := by
  rw [mem_map_renamed]
  constructor
  · rintro ⟨old, recorded, same⟩
    exact injOn here (known old recorded) same ▸ recorded
  · exact fun recorded => ⟨id, recorded, rfl⟩

/-- Among renamed records the kept links are the renamed ones. -/
theorem renames_keptLink (injOn : Set.InjOn rename inside) (known : ∀ id ∈ people.map Person.id, id ∈ inside)
    (ends : ∀ edge ∈ edges, edge.parent ∈ inside ∧ edge.child ∈ inside) :
    Renames rename inside (KeptLink people edges)
      (KeptLink (people.map (Person.renamed rename)) (edges.map (ParentEdge.renamed rename))) := by
  -- A link is kept under the new identifiers if it is recorded and both ends are known and different.
  refine ⟨injOn, fun top low link => ⟨known top link.parentKnown, known low link.childKnown⟩, fun top low => ?_⟩
  constructor
  · rintro ⟨differ, topKnown, lowKnown, recorded⟩
    obtain ⟨edge, member, same⟩ := List.mem_map.mp recorded
    obtain ⟨rfl, rfl⟩ := ParentEdge.mk.inj same
    -- The people with the new identifiers are those at the ends of the link.
    obtain ⟨parentInside, childInside⟩ := ends edge member
    have parentKnown := (rename_mem_map_renamed_iff injOn known parentInside).mp topKnown
    have childKnown := (rename_mem_map_renamed_iff injOn known childInside).mp lowKnown
    exact ⟨_, _, ⟨fun equal => differ (congrArg rename equal), parentKnown, childKnown, member⟩, rfl, rfl⟩
  · rintro ⟨up, down, link, rfl, rfl⟩
    refine ⟨fun equal => link.differ ?_, ?_, ?_, List.mem_map.mpr ⟨_, link.recorded, rfl⟩⟩
    · exact injOn (known up link.parentKnown) (known down link.childKnown) equal
    · exact (mem_map_renamed _).mpr ⟨up, link.parentKnown, rfl⟩
    · exact (mem_map_renamed _).mpr ⟨down, link.childKnown, rfl⟩

end Kindred
