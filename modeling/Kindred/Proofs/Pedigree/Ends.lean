import Kindred.Proofs.Pedigree.Acyclic
import Kindred.Proofs.Pedigree.Rows

/-! In an acyclic graph everybody is a founder or descends from one, and is childless or an ancestor of somebody
childless. -/

namespace Kindred

namespace Acyclic

variable {parent : PersonId → PersonId → Prop}

/-- Read the other way, the links close no circle either. -/
theorem reverse (acyclic : Acyclic parent) : Acyclic fun child id => parent id child :=
  fun id steps chain => acyclic id steps chain.reverse

/-- Where only finitely many people can be parents, every way up comes to an end. -/
theorem wellFounded (acyclic : Acyclic parent) {ids : List PersonId} (named : ∀ up down, parent up down → up ∈ ids) :
    WellFounded parent := by
  classical
  -- A parent has fewer people above than the child has.
  let above := fun id => (ids.filter fun top =>
    ∃ steps, Ascends (fun child up => parent up child) (steps + 1) top id).length
  refine Subrelation.wf (fun {up down} link => ?_) (measure above).wf
  exact Pedigree.length_below_lt acyclic.reverse link (named up down link)

/-- From everybody a chain leads up to somebody without a parent. -/
theorem exists_top (acyclic : Acyclic parent) {ids : List PersonId} (named : ∀ up down, parent up down → up ∈ ids)
    (id : PersonId) : ∃ top, (∀ up, ¬parent up top) ∧ ∃ steps, Ascends parent steps id top := by
  -- The induction climbs from child to parent.
  induction id using (acyclic.wellFounded named).induction with
  | _ id ih =>
    by_cases orphan : ∃ up, parent up id
    · obtain ⟨up, link⟩ := orphan
      obtain ⟨top, nobody, steps, chain⟩ := ih up link
      exact ⟨top, nobody, 1 + steps, ((Ascends.refl id).step link).trans chain⟩
    · exact ⟨id, fun up link => orphan ⟨up, link⟩, 0, .refl id⟩

end Acyclic

namespace Pedigree

variable {people : List Person} {edges : List ParentEdge}

/-- A kept link leads to one person in a direction from another. -/
def Leads (people : List Person) (edges : List ParentEdge) (direction : Direction) (far near : PersonId) : Prop :=
  KeptLink people edges (direction.link near far).parent (direction.link near far).child

/-- Links that close no circle on the way up close none on the way down. -/
theorem acyclic_leads (acyclic : (ofRecords people edges).isAcyclic) (direction : Direction) :
    Acyclic (Leads people edges direction) := by
  have none : Acyclic (KeptLink people edges) := isAcyclic_iff.mp acyclic
  cases direction with
  | up => exact none
  | down => exact none.reverse

/-- A link leads to somebody recorded. -/
theorem Leads.known {direction : Direction} {far near : PersonId} (link : Leads people edges direction far near) :
    far ∈ people.map Person.id := by
  cases direction with
  | up => exact link.parentKnown
  | down => exact link.childKnown

/-- At the ends of a graph stand the recorded people from whom no link leads on. -/
theorem mem_ends_iff_leads (direction : Direction) (id : PersonId) :
    id ∈ (ofRecords people edges).ends direction ↔
      id ∈ people.map Person.id ∧ ∀ far, ¬Leads people edges direction far id := by
  rw [KinTable.mem_ends_iff, List.eq_nil_iff_forall_not_mem]
  refine and_congr_right fun _ => forall_congr' fun far => not_congr ?_
  exact (KinTable.describes_ofRecords people edges).mem_rowOf_iff direction id far

/-- In an acyclic graph links lead from everybody, in either direction, to somebody at the end. -/
theorem exists_end (acyclic : (ofRecords people edges).isAcyclic) (direction : Direction) {id : PersonId}
    (known : id ∈ people.map Person.id) :
    ∃ last ∈ (ofRecords people edges).ends direction,
      ∃ steps, Ascends (Leads people edges direction) steps id last := by
  obtain ⟨last, nobody, steps, chain⟩ := (acyclic_leads acyclic direction).exists_top (fun _ _ => Leads.known) id
  have recorded : last ∈ people.map Person.id := by
    -- The last person is the first one, or a link leads there.
    cases chain with
    | refl => exact known
    | step _ link => exact link.known
  exact ⟨last, (mem_ends_iff_leads direction last).mpr ⟨recorded, nobody⟩, steps, chain⟩

/-- Everybody is a founder or has one among the ancestors, everybody is childless or among the ancestors of somebody
childless, and where there are people, there are some of both. -/
structure LiesBetweenEnds (people : List Person) (edges : List ParentEdge) : Prop where
  above : ∀ id ∈ people.map Person.id, id ∈ (ofRecords people edges).founders ∨
    ∃ founder ∈ (ofRecords people edges).founders,
      founder ∈ ((KinTable.ofRecords people edges).ancestorDistances id).keys
  below : ∀ id ∈ people.map Person.id, id ∈ (ofRecords people edges).childless ∨
    ∃ last ∈ (ofRecords people edges).childless,
      id ∈ ((KinTable.ofRecords people edges).ancestorDistances last).keys
  inhabited : people ≠ [] → (ofRecords people edges).founders ≠ [] ∧ (ofRecords people edges).childless ≠ []

/-- In an acyclic graph everybody stands between the founders and the childless. -/
theorem liesBetweenEnds (acyclic : (ofRecords people edges).isAcyclic) : LiesBetweenEnds people edges where
  above id known := by
    obtain ⟨founder, isFounder, steps, chain⟩ := exists_end acyclic .up known
    by_cases same : founder = id
    · exact Or.inl (same ▸ isFounder)
    · have found := (KinTable.mem_keys_iff_ascends people edges id founder).mpr ⟨same, steps, chain⟩
      exact Or.inr ⟨founder, isFounder, found⟩
  below id known := by
    obtain ⟨last, isLast, steps, chain⟩ := exists_end acyclic .down known
    by_cases same : last = id
    · exact Or.inl (same ▸ isLast)
    · -- Read upwards, the chain leads from the last person to this one.
      have found := (KinTable.mem_keys_iff_ascends people edges last id).mpr ⟨Ne.symm same, steps, chain.reverse⟩
      exact Or.inr ⟨last, isLast, found⟩
  inhabited some := by
    obtain ⟨person, member⟩ := List.exists_mem_of_ne_nil people some
    have known : person.id ∈ people.map Person.id := List.mem_map.mpr ⟨person, member, rfl⟩
    obtain ⟨founder, isFounder, _⟩ := exists_end acyclic .up known
    obtain ⟨last, isLast, _⟩ := exists_end acyclic .down known
    exact ⟨List.ne_nil_of_mem isFounder, List.ne_nil_of_mem isLast⟩

/-- Over three generations, with a shortcut and a link to nobody recorded, everybody stands between the ends. -/
theorem liesBetweenEnds_over_three_generations :
    let people : List Person :=
      [⟨⟨"c"⟩, "Анна", .female, none⟩, ⟨⟨"b"⟩, "Пётр", .male, none⟩, ⟨⟨"a"⟩, "Иван", .male, none⟩]
    let edges : List ParentEdge := [⟨⟨"a"⟩, ⟨"b"⟩⟩, ⟨⟨"b"⟩, ⟨"c"⟩⟩, ⟨⟨"a"⟩, ⟨"c"⟩⟩, ⟨⟨"c"⟩, ⟨"d"⟩⟩]
    (ofRecords people edges).isAcyclic ∧ LiesBetweenEnds people edges :=
  ⟨by decide, liesBetweenEnds (by decide)⟩

end Pedigree

end Kindred
