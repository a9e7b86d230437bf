import Kindred.Proofs.Classify.Kinship
import Kindred.Proofs.Pedigree.PointerWalk

/-! The side of the family on which somebody descends from an ancestor is that of the second person on the chain that
is shown. -/

namespace Kindred

/-- The side of the family that a chain shows: the one of the sex recorded last for its second person. -/
def Snapshot.sideOf (people : List Person) (path : List PersonId) : Option Line :=
  path[1]?.bind fun id => (person? people id).bind fun person => Line.throughParent person.sex

section Chains

variable {parent : PersonId → PersonId → Prop} {low top next : PersonId} {path : List PersonId} {rest : Nat}

/-- The second person on a shortest list stands one step less far from the top. -/
theorem LeadsUp.isDistance_second {above : List PersonId} (shown : LeadsUp parent low top (low :: above))
    (far : IsDistance parent low top (rest + 1)) (size : above.length = rest + 1) :
    ∃ next others, above = next :: others ∧ parent next low ∧ IsDistance parent next top rest := by
  cases shown.eq_single_or_cons with
  | inl alone =>
    -- Nobody else would stand on the list.
    have empty : above = [] := by simpa using alone.1
    simp [empty] at size
  | inr longer =>
    obtain ⟨next, others, split, up, onwards⟩ := longer
    obtain ⟨_, rfl⟩ := List.cons.inj split
    obtain ⟨steps, counted, chain⟩ := onwards.ascends
    have same : steps = rest := by omega
    obtain ⟨others, rfl⟩ := List.head?_eq_some_iff.mp onwards.starts
    exact ⟨next, others, rfl, up, far.after_step up (same ▸ chain)⟩

/-- The second person on the least of the shortest lists is the least parent from whom a shortest chain leads on. -/
theorem IsLeastPath.exists_isNextUp (shown : IsLeastPath parent low top path)
    (far : IsDistance parent low top (rest + 1)) :
    ∃ next others, path = low :: next :: others ∧ IsNextUp parent low top (rest + 1) next := by
  obtain ⟨above, rfl⟩ := List.head?_eq_some_iff.mp shown.leads.starts
  have aboveSize : above.length = rest + 1 := by simpa using shown.length_eq far
  obtain ⟨next, others, rfl, up, leadsOn⟩ := shown.leads.isDistance_second far aboveSize
  refine ⟨next, others, rfl, up, leadsOn, ?_⟩
  -- Another parent with a shortest chain gives a list as short, and that one does not come earlier.
  intro other otherUp otherFar
  obtain ⟨otherPath, otherSize, otherLeads⟩ := otherFar.ascends.exists_leadsUp
  obtain ⟨otherRest, rfl⟩ := List.head?_eq_some_iff.mp otherLeads.starts
  have asShort : (low :: other :: otherRest).length = (low :: next :: others).length := by
    simp only [List.length_cons] at otherSize aboveSize ⊢
    omega
  cases shown.least _ (otherLeads.cons otherUp) asShort with
  | inl equal =>
    left
    simp only [List.cons.injEq] at equal
    exact equal.2.1
  | inr later =>
    -- Both begin with the same person, so the second one decides first.
    simp only [List.cons_lt_cons_iff, PersonId.lt_irrefl, false_or, true_and] at later
    cases later with
    | inl less => exact Or.inr less
    | inr tied => exact Or.inl tied.1.symm

end Chains

variable {people : List Person} {edges : List ParentEdge} {low top : PersonId} {path : List PersonId}

/-- On the chain that leads up to an ancestor the second person is recorded, and is the one through whom the line
goes. -/
theorem IsLeastPath.lineTowards_eq {distance : Nat} (shown : IsLeastPath (KeptLink people edges) low top path)
    (above : IsAncestorAt (KeptLink people edges) low top distance) :
    ∃ next person, path[1]? = some next ∧ LastRecord people next person ∧
      (Snapshot.ofRecords people edges).lineTowards low top distance = Line.throughParent person.sex := by
  obtain ⟨rest, rfl, far⟩ := above.exists_succ
  obtain ⟨next, others, rfl, way⟩ := shown.exists_isNextUp far
  obtain ⟨person, record⟩ := way.exists_record
  exact ⟨next, person, rfl, record, lineTowards_ofRecords above way record⟩

/-- The line towards an ancestor is the side that the chain up to the ancestor shows. -/
theorem IsLeastPath.lineTowards_eq_sideOf {distance : Nat}
    (shown : IsLeastPath (KeptLink people edges) low top path)
    (above : IsAncestorAt (KeptLink people edges) low top distance) :
    (Snapshot.ofRecords people edges).lineTowards low top distance = Snapshot.sideOf people path := by
  obtain ⟨next, person, second, record, line⟩ := shown.lineTowards_eq above
  have found := (Snapshot.person?_eq_some_iff people next person).mpr record
  rw [line, Snapshot.sideOf, second, Option.bind_some, found, Option.bind_some]

end Kindred
