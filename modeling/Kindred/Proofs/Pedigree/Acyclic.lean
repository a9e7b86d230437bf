import Kindred.Proofs.Pedigree.Cycles

/-! A graph is acyclic exactly when no chain of links leads back to its start, and one link more keeps it so unless a
chain led from the upper end of the link up to the lower one. -/

namespace Kindred

namespace Ascends

variable {parent other : PersonId → PersonId → Prop} {low top : PersonId} {steps : Nat}

/-- A chain stays one when links are added. -/
theorem mono (more : ∀ up down, parent up down → other up down) (chain : Ascends parent steps low top) :
    Ascends other steps low top := by
  induction chain with
  | refl id => exact .refl id
  | step _ up ih => exact ih.step (more _ _ up)

/-- A chain among some links and one more can do without that one, or it comes up to the lower end of it and goes on
from the upper end. -/
theorem avoids_or_uses {above below : PersonId}
    (chain : Ascends (fun up down => parent up down ∨ (up = above ∧ down = below)) steps low top) :
    Ascends parent steps low top ∨
      (∃ first, Ascends parent first low below) ∧ ∃ last, Ascends parent last above top := by
  induction chain with
  | refl id => exact Or.inl (.refl id)
  | step _ up ih =>
    rcases up with old | ⟨rfl, rfl⟩
    · -- An old link continues what comes before it, whichever of the two that is.
      rcases ih with avoids | ⟨first, last, rest⟩
      · exact Or.inl (avoids.step old)
      · exact Or.inr ⟨first, last + 1, rest.step old⟩
    · -- The chain goes on from the upper end, and what comes before it has come up to the lower one.
      rcases ih with avoids | ⟨first, _⟩
      · exact Or.inr ⟨⟨_, avoids⟩, 0, .refl _⟩
      · exact Or.inr ⟨first, 0, .refl _⟩

end Ascends

/-- No chain with at least one step leads back to its start. -/
def Acyclic (parent : PersonId → PersonId → Prop) : Prop :=
  -- A chain without steps is at its start all the time.
  ∀ id steps, ¬Ascends parent (steps + 1) id id

namespace Acyclic

variable {parent other : PersonId → PersonId → Prop}

/-- Taking links away closes no circle. -/
theorem of_subset (acyclic : Acyclic other) (fewer : ∀ up down, parent up down → other up down) :
    Acyclic parent :=
  fun id steps chain => acyclic id steps (chain.mono fewer)

/-- One link more closes no circle exactly when no chain leads from its upper end up to its lower one. -/
theorem insert_iff {above below : PersonId} :
    Acyclic (fun up down => parent up down ∨ (up = above ∧ down = below)) ↔
      Acyclic parent ∧ ∀ steps, ¬Ascends parent steps above below := by
  constructor
  · intro acyclic
    refine ⟨acyclic.of_subset fun up down => Or.inl, fun steps chain => ?_⟩
    -- The new link leads from the end of such a chain back to its start.
    exact acyclic above steps ((chain.mono fun up down => Or.inl).step (Or.inr ⟨rfl, rfl⟩))
  · rintro ⟨acyclic, apart⟩ id steps chain
    rcases chain.avoids_or_uses with avoids | ⟨⟨_, first⟩, _, last⟩
    · exact acyclic id steps avoids
    · -- Cut at the new link, the circle leads from its upper end around to its lower one.
      exact apart _ (last.trans first)

end Acyclic

namespace Pedigree

variable {people : List Person} {edges : List ParentEdge}

/-- Somebody has more people below than a child has, unless a chain leads back to the child. -/
theorem length_below_lt {ids : List PersonId} {parent : PersonId → PersonId → Prop}
    [∀ id, DecidablePred fun low => ∃ steps, Ascends parent (steps + 1) low id] (acyclic : Acyclic parent)
    {top low : PersonId} (up : parent top low) (known : low ∈ ids) :
    (ids.filter fun id => ∃ steps, Ascends parent (steps + 1) id low).length <
      (ids.filter fun id => ∃ steps, Ascends parent (steps + 1) id top).length := by
  -- Those below the child are below the parent, and the child itself is below the parent only.
  have among : (ids.filter fun id => ∃ steps, Ascends parent (steps + 1) id low) =
      (ids.filter fun id => ∃ steps, Ascends parent (steps + 1) id top).filter
        fun id => ∃ steps, Ascends parent (steps + 1) id low := by
    rw [List.filter_filter]
    refine List.filter_congr fun id _ => ?_
    rw [← Bool.decide_and]
    refine decide_eq_decide.mpr (and_iff_left_of_imp ?_).symm
    rintro ⟨steps, chain⟩
    exact ⟨steps + 1, chain.step up⟩
  rw [among, List.length_filter_lt_length_iff_exists]
  refine ⟨low, List.mem_filter.mpr ⟨known, decide_eq_true ⟨0, (Ascends.refl low).step up⟩⟩, ?_⟩
  rw [decide_eq_true_iff]
  rintro ⟨steps, chain⟩
  exact acyclic low steps chain

/-- The graph of some records is acyclic exactly when no chain of kept links leads back to its start. -/
theorem isAcyclic_iff : (ofRecords people edges).isAcyclic ↔ Acyclic (KeptLink people edges) := by
  classical
  constructor
  · -- The start of such a chain would have a mutual ancestor.
    intro acyclic id steps chain
    obtain ⟨other, both⟩ := (exists_mutualAncestors_iff people edges id).mpr ⟨steps, chain⟩
    exact not_mutualAncestors_of_isAcyclic acyclic id other both
  · -- Everybody ranks by the number of people below.
    intro acyclic
    refine isAcyclic_of_rank (fun id => ((people.map Person.id).filter fun low =>
      ∃ steps, Ascends (KeptLink people edges) (steps + 1) low id).length) fun parent child kept => ?_
    exact length_below_lt acyclic kept kept.childKnown

end Pedigree

end Kindred
