import Kindred.Pedigree.NearestCommon
import Kindred.Proofs.IdMap

/-! The nearest shared ancestor is the least one by the sum of the distances, the larger one and the
identifier. -/

namespace Kindred.CommonAncestor

/-- The order in which shared ancestors come, from the nearest on. -/
theorem isNearer_iff (first second : CommonAncestor) :
    first.isNearer second ↔
      first.distanceA + first.distanceB < second.distanceA + second.distanceB ∨
        (first.distanceA + first.distanceB = second.distanceA + second.distanceB ∧
          (max first.distanceA first.distanceB < max second.distanceA second.distanceB ∨
            (max first.distanceA first.distanceB = max second.distanceA second.distanceB ∧
              first.id < second.id))) := by
  simp [isNearer]

/-- Nothing is nearer than itself. -/
theorem not_isNearer_self (common : CommonAncestor) : ¬common.isNearer common := by
  -- All three measures are equal, and no identifier precedes itself.
  rw [isNearer_iff]
  rintro (less | ⟨_, less | ⟨_, less⟩⟩)
  · exact Nat.lt_irrefl _ less
  · exact Nat.lt_irrefl _ less
  · exact PersonId.lt_irrefl _ less

/-- The order of shared ancestors is transitive. -/
theorem isNearer_trans {first second third : CommonAncestor} (one : first.isNearer second)
    (other : second.isNearer third) : first.isNearer third := by
  -- The first measure that differs in either step decides.
  rw [isNearer_iff] at *
  rcases one with less | ⟨sum, less | ⟨larger, less⟩⟩
  · left
    omega
  · rcases other with less' | ⟨sum', less' | ⟨larger', less'⟩⟩
    · left
      omega
    · exact Or.inr ⟨by omega, Or.inl (by omega)⟩
    · exact Or.inr ⟨by omega, Or.inl (by omega)⟩
  · rcases other with less' | ⟨sum', less' | ⟨larger', less'⟩⟩
    · left
      omega
    · exact Or.inr ⟨by omega, Or.inl (by omega)⟩
    · exact Or.inr ⟨by omega, Or.inr ⟨by omega, PersonId.lt_trans less less'⟩⟩

/-- Of two shared ancestors with different identifiers one is nearer. -/
theorem isNearer_of_not_isNearer {first second : CommonAncestor} (differ : first.id ≠ second.id)
    (notNearer : ¬first.isNearer second) : second.isNearer first := by
  -- Where both numbers are equal, the identifiers decide.
  rw [isNearer_iff] at *
  simp only [not_or, not_and] at notNearer
  obtain ⟨notLess, tied⟩ := notNearer
  by_cases sum : first.distanceA + first.distanceB = second.distanceA + second.distanceB
  · obtain ⟨notLess', tied'⟩ := tied sum
    by_cases larger :
        max first.distanceA first.distanceB = max second.distanceA second.distanceB
    · exact Or.inr ⟨sum.symm, Or.inr ⟨larger.symm, PersonId.lt_of_not_lt differ (tied' larger)⟩⟩
    · exact Or.inr ⟨sum.symm, Or.inl (by omega)⟩
  · left
    omega

/-- The nearer of the best so far and one more. -/
def nearerOf (best other : CommonAncestor) : CommonAncestor :=
  if other.isNearer best then other else best

/-- A list of shared ancestors names each of them once. -/
def DistinctIds (candidates : List CommonAncestor) : Prop :=
  -- Members with the same identifier are the same member.
  ∀ one ∈ candidates, ∀ other ∈ candidates, one.id = other.id → one = other

/-- One shared ancestor is another one, or comes before it. -/
def AtLeastAsNear (best other : CommonAncestor) : Prop :=
  -- Nothing comes before itself, so the two are kept apart.
  other = best ∨ best.isNearer other

/-- What is at least as near as something at least as near is so, too. -/
theorem AtLeastAsNear.trans {first second third : CommonAncestor}
    (one : AtLeastAsNear first second) (other : AtLeastAsNear second third) :
    AtLeastAsNear first third := by
  rcases other with same | further
  · exact same ▸ one
  · rcases one with same | nearer
    · exact Or.inr (same ▸ further)
    · exact Or.inr (isNearer_trans nearer further)

/-- The nearer of two is one of them. -/
theorem nearerOf_eq_or (best other : CommonAncestor) :
    nearerOf best other = best ∨ nearerOf best other = other := by
  rw [nearerOf]
  split <;> simp

/-- The nearer of two that share an identifier only if they are the same is at least as near as both. -/
theorem nearerOf_atLeastAsNear {best other : CommonAncestor}
    (distinct : other.id = best.id → other = best) :
    AtLeastAsNear (nearerOf best other) best ∧ AtLeastAsNear (nearerOf best other) other := by
  -- The other one replaces the best only if it is nearer.
  rw [nearerOf]
  split
  · rename_i nearer
    exact ⟨Or.inr nearer, Or.inl rfl⟩
  · rename_i farther
    refine ⟨Or.inl rfl, ?_⟩
    by_cases same : other.id = best.id
    · exact Or.inl (distinct same)
    · exact Or.inr (isNearer_of_not_isNearer same farther)

/-- The best of a walk over some shared ancestors is one of them. -/
theorem foldl_nearerOf_mem (candidates : List CommonAncestor) (first : CommonAncestor) :
    candidates.foldl nearerOf first ∈ first :: candidates := by
  -- Each step keeps the best so far or takes the next one.
  induction candidates generalizing first with
  | nil => simp
  | cons next rest ih =>
    rw [List.foldl_cons]
    rcases List.mem_cons.mp (ih (nearerOf first next)) with best | later
    · rw [best]
      rcases nearerOf_eq_or first next with kept | taken
      · simp [kept]
      · simp [taken]
    · simp [later]

/-- The best of a walk over some shared ancestors is at least as near as all of them. -/
theorem foldl_nearerOf_atLeastAsNear {candidates : List CommonAncestor} {first : CommonAncestor}
    (distinct : DistinctIds (first :: candidates)) :
    ∀ other ∈ first :: candidates, AtLeastAsNear (candidates.foldl nearerOf first) other := by
  induction candidates generalizing first with
  | nil =>
    intro other member
    exact Or.inl (List.mem_singleton.mp member)
  | cons next rest ih =>
    -- The nearer of the first two stands for both of them from here on.
    have inside : ∀ other ∈ nearerOf first next :: rest, other ∈ first :: next :: rest := by
      intro other member
      rcases List.mem_cons.mp member with same | later
      · rcases nearerOf_eq_or first next with kept | taken
        · simp [same, kept]
        · simp [same, taken]
      · simp [later]
    have nearest := ih fun one oneMember other otherMember =>
      distinct one (inside one oneMember) other (inside other otherMember)
    obtain ⟨toFirst, toNext⟩ := nearerOf_atLeastAsNear (distinct next (by simp) first (by simp))
    have best := nearest (nearerOf first next) (by simp)
    intro other member
    rcases List.mem_cons.mp member with same | member
    · exact same ▸ best.trans toFirst
    · rcases List.mem_cons.mp member with same | later
      · exact same ▸ best.trans toNext
      · exact nearest other (by simp [later])

/-- The nearest of a list is the member that is nearer than all others. -/
theorem nearest?_eq_some_iff {candidates : List CommonAncestor} (distinct : DistinctIds candidates)
    (common : CommonAncestor) :
    nearest? candidates = some common ↔
      common ∈ candidates ∧ ∀ other ∈ candidates, other = common ∨ common.isNearer other := by
  -- There is only one such member, because of two different ones each would be nearer.
  cases candidates with
  | nil => simp [nearest?]
  | cons first rest =>
    have member := foldl_nearerOf_mem rest first
    have nearest := foldl_nearerOf_atLeastAsNear distinct
    have found : nearest? (first :: rest) = some (rest.foldl nearerOf first) := rfl
    rw [found, Option.some.injEq]
    constructor
    · rintro rfl
      exact ⟨member, nearest⟩
    · rintro ⟨commonMember, least⟩
      rcases nearest common commonMember with same | nearer
      · exact same.symm
      · rcases least _ member with same | farther
        · exact same
        · exact absurd (isNearer_trans nearer farther) (not_isNearer_self _)

/-- The candidates are the ancestors that both maps know, with the two distances. -/
theorem mem_candidates_iff (distancesA distancesB : IdMap Nat) (common : CommonAncestor) :
    common ∈ candidates distancesA distancesB ↔
      distancesA.get? common.id = some common.distanceA ∧
        distancesB.get? common.id = some common.distanceB := by
  refine (IdMap.mem_filterMap_get?_iff distancesA distancesB CommonAncestor.mk common).trans ⟨?_, ?_⟩
  · intro made
    obtain ⟨id, k, l, first, second, rfl⟩ := made
    exact ⟨first, second⟩
  · intro found
    exact ⟨_, _, _, found.1, found.2, rfl⟩

/-- No candidate occurs twice. -/
theorem distinctIds_candidates (distancesA distancesB : IdMap Nat) :
    DistinctIds (candidates distancesA distancesB) := by
  -- The identifier determines both distances.
  intro one oneMember other otherMember same
  obtain ⟨firstA, firstB⟩ := (mem_candidates_iff distancesA distancesB one).mp oneMember
  obtain ⟨secondA, secondB⟩ := (mem_candidates_iff distancesA distancesB other).mp otherMember
  rw [same, secondA] at firstA
  rw [same, secondB] at firstB
  cases one
  cases other
  simp_all

/-- The resolved ancestor is the shared one that is nearer than all other shared ones. -/
theorem resolve?_eq_some_iff (distancesA distancesB : IdMap Nat) (common : CommonAncestor) :
    resolve? distancesA distancesB = some common ↔
      common ∈ candidates distancesA distancesB ∧
        ∀ other ∈ candidates distancesA distancesB, other = common ∨ common.isNearer other :=
  nearest?_eq_some_iff (distinctIds_candidates distancesA distancesB) common

/-- Nothing is resolved exactly when no ancestor is shared. -/
theorem resolve?_eq_none_iff (distancesA distancesB : IdMap Nat) :
    resolve? distancesA distancesB = none ↔
      ∀ common, common ∉ candidates distancesA distancesB := by
  -- A list with a first member has a nearest one.
  rw [resolve?]
  cases candidates distancesA distancesB with
  | nil => simp [nearest?]
  | cons first rest => exact iff_of_false (by simp [nearest?]) fun none => none first (by simp)

/-- A shared ancestor comes first among all that two maps share: by the sum of the two distances, then by the larger
one, then by the identifier. -/
structure IsNearestShared (distancesA distancesB : IdMap Nat) (common : CommonAncestor) : Prop where
  inFirst : distancesA.get? common.id = some common.distanceA
  inSecond : distancesB.get? common.id = some common.distanceB
  least : ∀ id k l, distancesA.get? id = some k → distancesB.get? id = some l →
    id = common.id ∨ common.distanceA + common.distanceB < k + l ∨
      (common.distanceA + common.distanceB = k + l ∧
        (max common.distanceA common.distanceB < max k l ∨
          (max common.distanceA common.distanceB = max k l ∧ common.id < id)))

/-- The resolved ancestor is the one who comes first. -/
theorem resolve?_eq_some_iff_isNearestShared (distancesA distancesB : IdMap Nat) (common : CommonAncestor) :
    resolve? distancesA distancesB = some common ↔ IsNearestShared distancesA distancesB common := by
  rw [resolve?_eq_some_iff]
  constructor
  · -- Every identifier in both maps is a candidate.
    intro nearest
    obtain ⟨member, least⟩ := nearest
    obtain ⟨inFirst, inSecond⟩ := (mem_candidates_iff distancesA distancesB common).mp member
    refine ⟨inFirst, inSecond, fun id k l first second => ?_⟩
    have candidate := (mem_candidates_iff distancesA distancesB ⟨id, k, l⟩).mpr ⟨first, second⟩
    exact (least _ candidate).imp (congrArg CommonAncestor.id) (isNearer_iff _ _).mp
  · -- Every candidate is in both maps, and the identifier determines the distances.
    intro nearest
    have member := (mem_candidates_iff distancesA distancesB common).mpr ⟨nearest.inFirst, nearest.inSecond⟩
    refine ⟨member, fun other candidate => ?_⟩
    obtain ⟨first, second⟩ := (mem_candidates_iff distancesA distancesB other).mp candidate
    exact (nearest.least other.id _ _ first second).imp
      (distinctIds_candidates distancesA distancesB other candidate common member) (isNearer_iff _ _).mpr

end Kindred.CommonAncestor
