import Kindred.Person

/-! Chains of parents, and the least number of steps from a person up to an ancestor. -/

namespace Kindred

/-- A chain of that many steps leads from one person up to another, each step to a parent. -/
inductive Ascends (parent : PersonId → PersonId → Prop) : Nat → PersonId → PersonId → Prop
  | refl (id : PersonId) : Ascends parent 0 id id
  | step {steps : Nat} {low middle top : PersonId} (below : Ascends parent steps low middle)
      (up : parent top middle) : Ascends parent (steps + 1) low top

/-- The least number of steps that lead from one person up to another. -/
structure IsDistance (parent : PersonId → PersonId → Prop) (low top : PersonId) (distance : Nat) :
    Prop where
  ascends : Ascends parent distance low top
  least : ∀ steps, Ascends parent steps low top → distance ≤ steps

/-- One person is an ancestor of another, that many generations up. -/
def IsAncestorAt (parent : PersonId → PersonId → Prop) (low top : PersonId) (distance : Nat) :
    Prop :=
  -- A person is no ancestor of their own, not even where a chain leads back to them.
  top ≠ low ∧ IsDistance parent low top distance

variable {parent : PersonId → PersonId → Prop} {low middle top : PersonId}

namespace Ascends

/-- A chain can be continued by another one. -/
theorem trans {first second : Nat} (below : Ascends parent first low middle)
    (above : Ascends parent second middle top) : Ascends parent (first + second) low top := by
  -- The second chain is added step by step.
  induction above with
  | refl => exact below
  | step _ up ih => exact (ih below).step up

/-- A chain has a person at every height. -/
theorem split {first second : Nat} (whole : Ascends parent (first + second) low top) :
    ∃ middle, Ascends parent first low middle ∧ Ascends parent second middle top := by
  -- The upper part is taken off step by step.
  induction second generalizing top with
  | zero => exact ⟨top, whole, .refl top⟩
  | succ second ih =>
    cases whole with
    | step below up =>
      obtain ⟨middle, lower, upper⟩ := ih below
      exact ⟨middle, lower, upper.step up⟩

/-- Read downwards, a chain of parents is a chain of children. -/
theorem reverse {steps : Nat} (chain : Ascends parent steps low top) :
    Ascends (fun child id => parent id child) steps top low := by
  -- The last step becomes the first one.
  induction chain with
  | refl id => exact .refl id
  | step _ up ih =>
    have first : Ascends (fun child id => parent id child) 1 _ _ := (Ascends.refl _).step up
    simpa only [Nat.add_comm] using first.trans ih

/-- A chain without steps stays where it is. -/
theorem eq_of_zero (chain : Ascends parent 0 low top) : low = top := by
  cases chain
  rfl

/-- A chain that has steps begins with one to a parent of the lower person. -/
theorem first_step {steps : Nat} (chain : Ascends parent (steps + 1) low top) :
    ∃ next, parent next low ∧ Ascends parent steps next top := by
  -- The chain is cut after its first step.
  rw [Nat.add_comm] at chain
  obtain ⟨next, one, rest⟩ := chain.split
  cases one with
  | step start up =>
    cases start
    exact ⟨next, up, rest⟩

/-- Where a chain leads to somebody, a shortest one does. -/
theorem exists_isDistance {steps : Nat} (chain : Ascends parent steps low top) :
    ∃ distance, IsDistance parent low top distance := by
  -- Among the numbers of steps that occur there is a least one.
  induction steps using Nat.strongRecOn with
  | ind steps ih =>
    by_cases shorter : ∃ other, other < steps ∧ Ascends parent other low top
    · -- A shorter chain leads to the least one by the same argument.
      obtain ⟨other, less, found⟩ := shorter
      exact ih other less found
    · refine ⟨steps, chain, fun other found => ?_⟩
      exact Nat.le_of_not_lt fun less => shorter ⟨other, less, found⟩

end Ascends

namespace IsDistance

/-- There is only one distance. -/
theorem unique {first second : Nat} (one : IsDistance parent low top first)
    (other : IsDistance parent low top second) : first = second :=
  Nat.le_antisymm (one.least second other.ascends) (other.least first one.ascends)

/-- A person stands at no distance from himself or herself. -/
theorem self (id : PersonId) : IsDistance parent id id 0 :=
  ⟨.refl id, fun steps _ => Nat.zero_le steps⟩

/-- Only the person stands at distance zero. -/
theorem zero_iff : IsDistance parent low top 0 ↔ low = top := by
  -- The only chain without steps is the trivial one.
  constructor
  · intro distance
    exact distance.ascends.eq_of_zero
  · rintro rfl
    exact self low

/-- Whoever stands at least one step up is an ancestor. -/
theorem isAncestorAt {distance : Nat} (far : IsDistance parent low top distance) (positive : 1 ≤ distance) :
    IsAncestorAt parent low top distance := by
  refine ⟨fun same => ?_, far⟩
  -- The person stands at no other distance than zero.
  have none := far.unique (zero_iff.mpr same.symm)
  omega

/-- A person at distance one is a parent. -/
theorem isParent (distance : IsDistance parent low top 1) : parent top low := by
  obtain ⟨next, up, rest⟩ := distance.ascends.first_step
  exact rest.eq_of_zero ▸ up

/-- A shortest chain is a shortest chain to each person on it. -/
theorem split {first second : Nat} (distance : IsDistance parent low top (first + second)) :
    ∃ middle, IsDistance parent low middle first ∧ IsDistance parent middle top second := by
  -- A shorter way on either side would shorten the whole.
  obtain ⟨middle, lower, upper⟩ := distance.ascends.split
  refine ⟨middle, ⟨lower, fun steps shorter => ?_⟩, ⟨upper, fun steps shorter => ?_⟩⟩
  · have := distance.least _ (shorter.trans upper)
    omega
  · have := distance.least _ (lower.trans shorter)
    omega

/-- On a shortest chain the person before the last step stands one step less far up. -/
theorem before_step {distance : Nat} (far : IsDistance parent low top (distance + 1))
    (below : Ascends parent distance low middle) (up : parent top middle) :
    IsDistance parent low middle distance := by
  refine ⟨below, fun steps shorter => ?_⟩
  have := far.least _ (shorter.step up)
  omega

/-- On a shortest chain the person after the first step has one step less to go. -/
theorem after_step {distance : Nat} (far : IsDistance parent low top (distance + 1))
    (up : parent middle low) (above : Ascends parent distance middle top) :
    IsDistance parent middle top distance := by
  refine ⟨above, fun steps shorter => ?_⟩
  have := far.least _ (((Ascends.refl low).step up).trans shorter)
  omega

/-- The people one generation further up are the parents of the generation before, unless they stand
nearer. -/
theorem succ_iff {distance : Nat} :
    IsDistance parent low top (distance + 1) ↔
      (∃ middle, IsDistance parent low middle distance ∧ parent top middle) ∧
        ∀ nearer, nearer ≤ distance → ¬IsDistance parent low top nearer := by
  -- The last step of a shortest chain starts from somebody at the distance before.
  constructor
  · intro far
    refine ⟨?_, fun nearer less other => ?_⟩
    · have far : IsDistance parent low top (distance + 1) := far
      obtain ⟨middle, below, above⟩ := far.split
      cases above.ascends with
      | step start up =>
        cases start
        exact ⟨middle, below, up⟩
    · have := far.unique other
      omega
  · rintro ⟨⟨middle, below, up⟩, notNearer⟩
    refine ⟨below.ascends.step up, fun steps chain => ?_⟩
    obtain ⟨nearest, found⟩ := chain.exists_isDistance
    have reach := found.least steps chain
    have further : ¬nearest ≤ distance := fun less => notNearer nearest less found
    omega

/-- The people of a shortest chain above its lower end: as many as the chain has steps, all of them different, each a
parent of somebody, and each at a distance of its own. -/
theorem exists_climbed {distance : Nat} (far : IsDistance parent low top distance) :
    ∃ climbed : List PersonId, climbed.length = distance ∧ climbed.Nodup ∧
      ∀ id ∈ climbed, (∃ child, parent id child) ∧
        ∃ height, 0 < height ∧ height ≤ distance ∧ IsDistance parent low id height := by
  -- The chain is climbed step by step.
  induction distance generalizing top with
  | zero => exact ⟨[], rfl, List.nodup_nil, by simp⟩
  | succ distance ih =>
    obtain ⟨⟨middle, below, up⟩, notNearer⟩ := succ_iff.mp far
    -- The people further down all stand nearer, so the top is none of them.
    obtain ⟨climbed, size, different, facts⟩ := ih below
    refine ⟨top :: climbed, by simp [size], List.nodup_cons.mpr ⟨fun member => ?_, different⟩, ?_⟩
    · obtain ⟨_, height, _, low, found⟩ := facts top member
      exact notNearer height low found
    · refine List.forall_mem_cons.mpr ⟨⟨⟨middle, up⟩, distance + 1, by omega, Nat.le_refl _, far⟩, ?_⟩
      intro id member
      obtain ⟨isParent, height, positive, low, found⟩ := facts id member
      exact ⟨isParent, height, positive, Nat.le_succ_of_le low, found⟩

/-- A distance is at most the number of people who can be named as parents. -/
theorem le_length {everybody : List PersonId}
    (named : ∀ id child, parent id child → id ∈ everybody) {distance : Nat}
    (far : IsDistance parent low top distance) : distance ≤ everybody.length := by
  obtain ⟨climbed, size, different, facts⟩ := far.exists_climbed
  rw [← size]
  refine different.length_le_of_subset fun id member => ?_
  obtain ⟨⟨child, up⟩, _⟩ := facts id member
  exact named id child up

/-- A chain that leads on from one of some people to somebody else among them has fewer steps than there are
people. -/
theorem lt_length {everybody : List PersonId} (inside : low ∈ everybody)
    (named : ∀ id child, parent id child → id ∈ everybody) {distance : Nat}
    (far : IsDistance parent low top distance) : distance < everybody.length := by
  -- The lower end is a person of the chain too, and stands at no distance.
  obtain ⟨climbed, size, different, facts⟩ := far.exists_climbed
  have apart : (low :: climbed).Nodup := by
    refine List.nodup_cons.mpr ⟨fun member => ?_, different⟩
    obtain ⟨_, height, positive, _, found⟩ := facts low member
    have none := found.unique (self low)
    omega
  have among : low :: climbed ⊆ everybody := by
    refine List.cons_subset.mpr ⟨inside, fun id member => ?_⟩
    obtain ⟨⟨child, up⟩, _⟩ := facts id member
    exact named id child up
  have count := apart.length_le_of_subset among
  rw [List.length_cons, size] at count
  omega

end IsDistance

end Kindred
