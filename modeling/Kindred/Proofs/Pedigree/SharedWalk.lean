import Kindred.Pedigree.SharedWalk
import Kindred.Proofs.Pedigree.NearestCommon
import Kindred.Proofs.Pedigree.QueueWalk
import Mathlib.Data.List.MinMax
import Mathlib.Data.Prod.Lex

/-! The walk over two maps of distances answers with the shared ancestor who is least by the sum of the distances, the
larger one and the identifier, although it compares no identifiers. The sums are those that words hold. Where all of
them fit they are the true ones, and they do for the distances of two people. -/

namespace Kindred

namespace Overflow

/-- An addition ends the program exactly if it checks its sum, and the sum does not fit. -/
theorem add?_eq_none_iff (overflow : Overflow) (k l : UInt64) :
    overflow.add? k l = none ↔ overflow = .stops ∧ maxCount < k.toNat + l.toNat := by
  cases overflow <;> simp [add?]

/-- An addition that goes on gives the sum that a word holds. -/
theorem add?_eq_some {overflow : Overflow} {k l : UInt64}
    (fits : overflow = .stops → k.toNat + l.toNat ≤ maxCount) : overflow.add? k l = some (k + l) := by
  cases overflow with
  | wraps => rfl
  | stops => simp [add?, fits rfl]

end Overflow

/-- A sum that fits is the true one. -/
theorem toNat_add_of_fits {k l : UInt64} (fits : k.toNat + l.toNat ≤ maxCount) :
    (k + l).toNat = k.toNat + l.toNat := by
  rw [UInt64.toNat_add]
  exact Nat.mod_eq_of_lt (Nat.lt_succ_of_le fits)

namespace SharedAncestor

/-- The ancestors in both maps, in the order of the identifiers. -/
def among (distancesA distancesB : IdMap UInt64) : List SharedAncestor :=
  distancesA.entries.filterMap (find? distancesB)

/-- The sum of both distances fits into a word. -/
def Fits (shared : SharedAncestor) : Prop :=
  shared.distanceA.toNat + shared.distanceB.toNat ≤ maxCount

instance (shared : SharedAncestor) : Decidable shared.Fits :=
  inferInstanceAs (Decidable (_ ≤ _))

/-- Every sum of two distances to one ancestor fits into a word. -/
def SumsFit (distancesA distancesB : IdMap UInt64) : Prop :=
  -- The sum is the true one, not the one that a word holds.
  ∀ id k l, distancesA.get? id = some k → distancesB.get? id = some l → k.toNat + l.toNat ≤ maxCount

section Among

variable (distancesA distancesB : IdMap UInt64)

/-- The ancestors in both maps are found in both, at the two distances. -/
theorem mem_among_iff (shared : SharedAncestor) :
    shared ∈ among distancesA distancesB ↔
      distancesA.get? shared.id = some shared.distanceA ∧ distancesB.get? shared.id = some shared.distanceB := by
  refine (IdMap.mem_filterMap_get?_iff distancesA distancesB SharedAncestor.mk shared).trans ⟨?_, ?_⟩
  · intro made
    obtain ⟨id, k, l, first, second, rfl⟩ := made
    exact ⟨first, second⟩
  · intro found
    exact ⟨_, _, _, found.1, found.2, rfl⟩

/-- The ancestors in both maps stand in the order of the identifiers. -/
theorem pairwise_among : (among distancesA distancesB).Pairwise fun first second => first.id < second.id := by
  -- The entries of the first map increase, and passing over some of them keeps the order.
  have increasing := List.pairwise_map.mp distancesA.increasing
  refine increasing.filterMap (find? distancesB) ?_
  intro entry later below first isFirst second isSecond
  -- An ancestor carries the identifier of the entry.
  obtain ⟨_, _, rfl⟩ := Option.map_eq_some_iff.mp isFirst
  obtain ⟨_, _, rfl⟩ := Option.map_eq_some_iff.mp isSecond
  exact below

/-- All sums fit if they do for every ancestor in both maps. -/
theorem sumsFit_iff :
    SumsFit distancesA distancesB ↔ ∀ shared ∈ among distancesA distancesB, shared.Fits := by
  constructor
  · intro fits shared member
    obtain ⟨first, second⟩ := (mem_among_iff distancesA distancesB shared).mp member
    exact fits shared.id _ _ first second
  · intro fits id k l first second
    exact fits ⟨id, k, l⟩ ((mem_among_iff distancesA distancesB ⟨id, k, l⟩).mpr ⟨first, second⟩)

/-- Nobody is in both maps exactly when they have no identifier in common. -/
theorem among_eq_nil_iff :
    among distancesA distancesB = [] ↔ ∀ id ∈ distancesA.keys, id ∉ distancesB.keys := by
  simp only [List.eq_nil_iff_forall_not_mem, mem_among_iff, IdMap.mem_keys_iff]
  constructor
  · intro nobody id inFirst inSecond
    obtain ⟨k, first⟩ := inFirst
    obtain ⟨l, second⟩ := inSecond
    exact nobody ⟨id, k, l⟩ ⟨first, second⟩
  · intro apart shared both
    exact apart shared.id ⟨_, both.1⟩ ⟨_, both.2⟩

end Among

/-- What the walk compares: the sum that a word holds, then the larger distance. -/
def rank (shared : SharedAncestor) : Nat ×ₗ Nat :=
  toLex ((shared.distanceA + shared.distanceB).toNat, (max shared.distanceA shared.distanceB).toNat)

/-- The measures that the walk keeps of a shared ancestor. -/
def measured (shared : SharedAncestor) : Measured :=
  ⟨shared.distanceA + shared.distanceB, max shared.distanceA shared.distanceB, shared⟩

/-- Measures are compared by rank. -/
theorem isLess_measured_iff (first second : SharedAncestor) :
    first.measured.isLess second.measured ↔ first.rank < second.rank := by
  simp only [Measured.isLess, measured, rank, Bool.or_eq_true, Bool.and_eq_true, decide_eq_true_eq, beq_iff_eq,
    Prod.Lex.toLex_lt_toLex, UInt64.lt_iff_toNat_lt, UInt64.toNat_inj]

/-- The best of some ancestors and one more, by rank. The earlier one of two equals stays. -/
def lowerOf : Option SharedAncestor → SharedAncestor → Option SharedAncestor :=
  List.argAux fun first second => first.rank < second.rank

/-- A turn of the walk keeps the lower one. -/
theorem keepNearer_eq_lowerOf {overflow : Overflow} (best : Option SharedAncestor) {shared : SharedAncestor}
    (fits : overflow = .stops → shared.Fits) :
    keepNearer overflow (best.map measured) shared = some ((lowerOf best shared).map measured) := by
  -- A sum that goes through is the one of the rank, so the two comparisons are the same.
  have found : measure? overflow shared = some shared.measured := by
    rw [measure?, Overflow.add?_eq_some fits]
    rfl
  rw [keepNearer, found]
  cases best with
  | none => rfl
  | some held =>
    have decides := isLess_measured_iff shared held
    by_cases below : shared.rank < held.rank
    · simp [lowerOf, List.argAux, below, decides.mpr below]
    · simp [lowerOf, List.argAux, below, mt decides.mp below]

/-- Turns over ancestors whose sums go through keep the lowest. -/
theorem foldlM_keepNearer {overflow : Overflow} {ancestors : List SharedAncestor} (best : Option SharedAncestor)
    (fits : overflow = .stops → ∀ shared ∈ ancestors, shared.Fits) :
    ancestors.foldlM (keepNearer overflow) (best.map measured) =
      some ((ancestors.foldl lowerOf best).map measured) := by
  -- The induction is on the ancestors still ahead, with any best so far.
  induction ancestors generalizing best with
  | nil => rfl
  | cons shared rest ih =>
    rw [List.foldlM_cons, keepNearer_eq_lowerOf best fun checks => fits checks shared (by simp)]
    exact ih (lowerOf best shared) fun checks other member => fits checks other (by simp [member])

/-- Where sums are checked, a sum that does not fit ends the walk, wherever its ancestor stands. -/
theorem foldlM_keepNearer_eq_none {ancestors : List SharedAncestor} {shared : SharedAncestor}
    (member : shared ∈ ancestors) (tooLarge : ¬shared.Fits) (best : Option Measured) :
    ancestors.foldlM (keepNearer .stops) best = none := by
  induction ancestors generalizing best with
  | nil => simp at member
  | cons first rest ih =>
    rw [List.foldlM_cons]
    rcases List.mem_cons.mp member with same | later
    · subst same
      have ended := (Overflow.add?_eq_none_iff .stops _ _).mpr ⟨rfl, Nat.lt_of_not_le tooLarge⟩
      simp [keepNearer, measure?, ended]
    · -- Whatever the first turn keeps, the rest does not get through.
      cases keepNearer .stops best first with
      | none => rfl
      | some next => exact ih later next

/-- The walk passes over everybody who is not in both maps. -/
theorem foldlM_consider (overflow : Overflow) (distancesA distancesB : IdMap UInt64) :
    distancesA.entries.foldlM (consider overflow distancesB) none =
      (among distancesA distancesB).foldlM (keepNearer overflow) none := by
  -- Looking an entry up and keeping the nearer one are one turn.
  rw [among, List.foldlM_filterMap]
  refine congrArg (fun turn => distancesA.entries.foldlM turn none) ?_
  funext best entry
  rw [consider]
  cases find? distancesB entry <;> rfl

/-- The walk answers with the first of the lowest, unless a sum ends it. -/
theorem walk_eq_argmin {overflow : Overflow} {distancesA distancesB : IdMap UInt64}
    (fits : overflow = .stops → SumsFit distancesA distancesB) :
    walk overflow distancesA distancesB = some ((among distancesA distancesB).argmin rank) := by
  -- The fold of the walk is the one by which the lowest of a list is found.
  have ended : (among distancesA distancesB).foldlM (keepNearer overflow) none =
      some (((among distancesA distancesB).argmin rank).map measured) :=
    foldlM_keepNearer none fun checks => (sumsFit_iff distancesA distancesB).mp (fits checks)
  rw [walk, foldlM_consider, ended]
  simp [Function.comp_def, measured]

/-- The walk is ended exactly by a sum that is checked and does not fit. -/
theorem walk_eq_none_iff (overflow : Overflow) (distancesA distancesB : IdMap UInt64) :
    walk overflow distancesA distancesB = none ↔ overflow = .stops ∧ ¬SumsFit distancesA distancesB := by
  constructor
  · intro ended
    by_contra goesOn
    rw [walk_eq_argmin fun checks => not_not.mp fun tooLarge => goesOn ⟨checks, tooLarge⟩] at ended
    contradiction
  · intro both
    obtain ⟨rfl, tooLarge⟩ := both
    rw [sumsFit_iff] at tooLarge
    push Not at tooLarge
    obtain ⟨shared, member, above⟩ := tooLarge
    rw [walk, foldlM_consider, foldlM_keepNearer_eq_none member above]
    rfl

/-- What the walk answers when no sum ends it. -/
theorem walk_eq_some_iff (overflow : Overflow) (distancesA distancesB : IdMap UInt64)
    (answer : Option SharedAncestor) :
    walk overflow distancesA distancesB = some answer ↔
      (overflow = .stops → SumsFit distancesA distancesB) ∧ (among distancesA distancesB).argmin rank = answer := by
  by_cases goesOn : overflow = .stops → SumsFit distancesA distancesB
  · rw [walk_eq_argmin goesOn, Option.some.injEq, iff_true_intro goesOn, true_and]
  · have ended := (walk_eq_none_iff overflow distancesA distancesB).mpr (Classical.not_imp.mp goesOn)
    exact iff_of_false (by simp [ended]) fun both => goesOn both.1

/-- A shared ancestor comes first among all that two maps share: by the sum of the two distances as a word holds it,
then by the larger one, then by the identifier. -/
structure IsNearest (distancesA distancesB : IdMap UInt64) (shared : SharedAncestor) : Prop where
  inFirst : distancesA.get? shared.id = some shared.distanceA
  inSecond : distancesB.get? shared.id = some shared.distanceB
  least : ∀ id k l, distancesA.get? id = some k → distancesB.get? id = some l →
    id = shared.id ∨ shared.distanceA + shared.distanceB < k + l ∨
      (shared.distanceA + shared.distanceB = k + l ∧
        (max shared.distanceA shared.distanceB < max k l ∨
          (max shared.distanceA shared.distanceB = max k l ∧ shared.id < id)))

/-- One shared ancestor comes before another one: by rank, then by the identifier. -/
def ComesBefore (first second : SharedAncestor) : Prop :=
  first.rank < second.rank ∨ (first.rank = second.rank ∧ first.id < second.id)

/-- The order in which the walk prefers shared ancestors. -/
theorem comesBefore_iff (first second : SharedAncestor) :
    first.ComesBefore second ↔
      first.distanceA + first.distanceB < second.distanceA + second.distanceB ∨
        (first.distanceA + first.distanceB = second.distanceA + second.distanceB ∧
          (max first.distanceA first.distanceB < max second.distanceA second.distanceB ∨
            (max first.distanceA first.distanceB = max second.distanceA second.distanceB ∧
              first.id < second.id))) := by
  simp only [ComesBefore, rank, Prod.Lex.toLex_lt_toLex, toLex_inj, Prod.mk.injEq, UInt64.lt_iff_toNat_lt,
    UInt64.toNat_inj]
  tauto

/-- No two shared ancestors come before each other. -/
theorem ComesBefore.asymm {first second : SharedAncestor} (before : first.ComesBefore second) :
    ¬second.ComesBefore first := by
  -- Ranks are compared strictly, and at one rank the identifiers are.
  intro after
  rcases after with lower | ⟨same, below⟩
  · rcases before with lower' | ⟨same', _⟩
    · exact lt_asymm lower lower'
    · exact absurd lower (same' ▸ lt_irrefl _)
  · rcases before with lower' | ⟨_, below'⟩
    · exact absurd lower' (same ▸ lt_irrefl _)
    · exact PersonId.lt_irrefl _ (PersonId.lt_trans below below')

/-- In a list in the order of the identifiers the first of the lowest comes before all others. -/
theorem comesBefore_of_argmin {ancestors : List SharedAncestor} {shared : SharedAncestor}
    (ordered : ancestors.Pairwise fun first second => first.id < second.id)
    (lowest : ancestors.argmin rank = some shared) :
    shared ∈ ancestors ∧ ∀ other ∈ ancestors, other = shared ∨ shared.ComesBefore other := by
  obtain ⟨member, least, first⟩ := List.argmin_eq_some_iff.mp lowest
  refine ⟨member, fun other otherMember => ?_⟩
  rcases lt_or_eq_of_le (least other otherMember) with lower | same
  · exact Or.inr (Or.inl lower)
  · -- Of two at one rank the walk keeps the one that it meets first, and identifiers increase along the walk.
    rcases Nat.lt_or_eq_of_le (first other otherMember (le_of_eq same.symm)) with earlier | here
    · have below := List.pairwise_iff_getElem.mp ordered _ _ (List.idxOf_lt_length_of_mem member)
        (List.idxOf_lt_length_of_mem otherMember) earlier
      rw [List.getElem_idxOf, List.getElem_idxOf] at below
      exact Or.inr (Or.inr ⟨same, below⟩)
    · exact Or.inl ((List.idxOf_inj member).mp here).symm

section Nearest

variable (distancesA distancesB : IdMap UInt64)

/-- The identifier determines both distances. -/
theorem eq_of_mem_among {one other : SharedAncestor} (oneMember : one ∈ among distancesA distancesB)
    (otherMember : other ∈ among distancesA distancesB) (same : one.id = other.id) : one = other := by
  obtain ⟨firstA, firstB⟩ := (mem_among_iff distancesA distancesB one).mp oneMember
  obtain ⟨secondA, secondB⟩ := (mem_among_iff distancesA distancesB other).mp otherMember
  rw [same, secondA] at firstA
  rw [same, secondB] at firstB
  cases one
  cases other
  simp_all

/-- The one who comes first comes before all others in both maps. -/
theorem isNearest_iff (shared : SharedAncestor) :
    IsNearest distancesA distancesB shared ↔
      shared ∈ among distancesA distancesB ∧
        ∀ other ∈ among distancesA distancesB, other = shared ∨ shared.ComesBefore other := by
  -- Those in both maps are the pairs of distances found under one identifier.
  have isMember := mem_among_iff distancesA distancesB
  constructor
  · intro nearest
    have member := (isMember shared).mpr ⟨nearest.inFirst, nearest.inSecond⟩
    refine ⟨member, fun other otherMember => ?_⟩
    obtain ⟨first, second⟩ := (isMember other).mp otherMember
    exact (nearest.least other.id _ _ first second).imp
      (eq_of_mem_among distancesA distancesB otherMember member) (comesBefore_iff _ _).mpr
  · intro both
    obtain ⟨member, least⟩ := both
    obtain ⟨inFirst, inSecond⟩ := (isMember shared).mp member
    refine ⟨inFirst, inSecond, fun id k l first second => ?_⟩
    have found := (isMember ⟨id, k, l⟩).mpr ⟨first, second⟩
    exact (least _ found).imp (congrArg SharedAncestor.id) (comesBefore_iff _ _).mp

/-- The first of the lowest shared ancestors is the one who comes first. -/
theorem argmin_among_eq_some_iff (shared : SharedAncestor) :
    (among distancesA distancesB).argmin rank = some shared ↔ IsNearest distancesA distancesB shared := by
  rw [isNearest_iff]
  constructor
  · exact comesBefore_of_argmin (pairwise_among distancesA distancesB)
  · intro both
    obtain ⟨member, least⟩ := both
    cases lowest : (among distancesA distancesB).argmin rank with
    | none => simp [List.argmin_eq_none.mp lowest] at member
    | some other =>
      -- If the two differed, each would come before the other one.
      obtain ⟨otherMember, otherLeast⟩ := comesBefore_of_argmin (pairwise_among distancesA distancesB) lowest
      rcases least other otherMember with same | before
      · rw [same]
      · rcases otherLeast shared member with same | after
        · rw [same]
        · exact absurd after before.asymm

end Nearest

/-- The same ancestor, seen from the other of the two. -/
def exchanged (shared : SharedAncestor) : SharedAncestor :=
  ⟨shared.id, shared.distanceB, shared.distanceA⟩

/-- The larger one of two words does not depend on their order. -/
theorem max_comm_words (k l : UInt64) : max k l = max l k := by
  rw [← UInt64.toNat_inj, UInt64.toNat_max, UInt64.toNat_max, Nat.max_comm]

/-- With the maps exchanged the same ancestor comes first. -/
theorem IsNearest.exchanged {distancesA distancesB : IdMap UInt64} {shared : SharedAncestor}
    (nearest : IsNearest distancesA distancesB shared) : IsNearest distancesB distancesA shared.exchanged := by
  -- Neither the sum nor the larger one of two distances depends on their order.
  refine ⟨nearest.inSecond, nearest.inFirst, fun id l k second first => ?_⟩
  have least := nearest.least id k l first second
  simpa only [SharedAncestor.exchanged, UInt64.add_comm shared.distanceB, UInt64.add_comm l,
    max_comm_words shared.distanceB, max_comm_words l] using least

/-- Sums fit whichever map is taken first. -/
theorem SumsFit.symm {distancesA distancesB : IdMap UInt64} (fits : SumsFit distancesA distancesB) :
    SumsFit distancesB distancesA := by
  intro id l k second first
  rw [Nat.add_comm]
  exact fits id k l first second

/-- Of the maps taken the other way round the first of the lowest is the same, with the distances exchanged. -/
theorem argmin_among_exchange (distancesA distancesB : IdMap UInt64) :
    (among distancesB distancesA).argmin rank =
      ((among distancesA distancesB).argmin rank).map exchanged := by
  -- Whoever comes first in one order of the maps does so in the other one.
  ext shared
  rw [Option.map_eq_some_iff, argmin_among_eq_some_iff]
  constructor
  · intro nearest
    exact ⟨shared.exchanged, (argmin_among_eq_some_iff _ _ _).mpr nearest.exchanged, rfl⟩
  · intro seen
    obtain ⟨other, lowest, rfl⟩ := seen
    exact ((argmin_among_eq_some_iff _ _ _).mp lowest).exchanged

/-- The walk over the maps taken the other way round answers with the same ancestor, the distances exchanged. -/
theorem walk_exchange (overflow : Overflow) (distancesA distancesB : IdMap UInt64) :
    walk overflow distancesB distancesA =
      (walk overflow distancesA distancesB).map (Option.map exchanged) := by
  -- A walk that is ended is ended in both orders, because the sums are the same.
  by_cases fits : overflow = .stops → SumsFit distancesA distancesB
  · rw [walk_eq_argmin fits, walk_eq_argmin fun checks => (fits checks).symm, argmin_among_exchange]
    rfl
  · obtain ⟨checks, tooLarge⟩ := Classical.not_imp.mp fits
    rw [(walk_eq_none_iff _ _ _).mpr ⟨checks, tooLarge⟩,
      (walk_eq_none_iff _ _ _).mpr ⟨checks, fun fits => tooLarge fits.symm⟩]
    rfl

/-- The walk answers that nobody is shared exactly when the maps have no identifier in common. -/
theorem walk_eq_some_none_iff (overflow : Overflow) (distancesA distancesB : IdMap UInt64) :
    walk overflow distancesA distancesB = some none ↔ ∀ id ∈ distancesA.keys, id ∉ distancesB.keys := by
  rw [walk_eq_some_iff, List.argmin_eq_none, ← among_eq_nil_iff]
  -- Where nobody is shared, there is no sum that would not fit.
  refine ⟨And.right, fun nobody => ⟨fun _ => ?_, nobody⟩⟩
  simp [sumsFit_iff, nobody]

/-- The distances as numbers. -/
def numbers (distances : IdMap UInt64) : IdMap Nat :=
  distances.mapValues UInt64.toNat

/-- The distances as words. -/
def words (distances : IdMap Nat) : IdMap UInt64 :=
  distances.mapValues UInt64.ofNat

/-- The candidates of two maps of numbers are the ancestors in both maps of words. -/
theorem candidates_numbers (distancesA distancesB : IdMap UInt64) :
    CommonAncestor.candidates (numbers distancesA) (numbers distancesB) =
      (among distancesA distancesB).map counted := by
  have entries : (numbers distancesA).entries =
    distancesA.entries.map fun entry => (entry.1, entry.2.toNat) := rfl
  rw [CommonAncestor.candidates, entries, among, List.filterMap_map, List.map_filterMap]
  refine congrArg (fun keep => distancesA.entries.filterMap keep) ?_
  funext entry
  simp only [Function.comp_apply, numbers, IdMap.get?_mapValues, find?, Option.map_map]
  rfl

/-- Of two ancestors whose sums fit the same one comes first in words and in numbers. -/
theorem comesBefore_iff_isNearer {first second : SharedAncestor}
    (firstFits : first.Fits) (secondFits : second.Fits) :
    first.ComesBefore second ↔ first.counted.isNearer second.counted := by
  rw [comesBefore_iff, CommonAncestor.isNearer_iff]
  simp only [counted, UInt64.lt_iff_toNat_lt, ← UInt64.toNat_inj, toNat_add_of_fits firstFits,
    toNat_add_of_fits secondFits, UInt64.toNat_max]

/-- Where all sums fit, the walk answers with what is resolved of the numbers. -/
theorem walk_counted {distancesA distancesB : IdMap UInt64} (fits : SumsFit distancesA distancesB)
    (overflow : Overflow) :
    (walk overflow distancesA distancesB).map (Option.map counted) =
      some (CommonAncestor.resolve? (numbers distancesA) (numbers distancesB)) := by
  -- The first of the lowest precedes all other candidates in numbers, too.
  have fits' := (sumsFit_iff distancesA distancesB).mp fits
  rw [walk_eq_argmin fun _ => fits, Option.map_some, Option.some.injEq]
  cases lowest : (among distancesA distancesB).argmin rank with
  | none =>
    rw [CommonAncestor.resolve?, candidates_numbers, List.argmin_eq_none.mp lowest]
    rfl
  | some shared =>
    obtain ⟨member, least⟩ := comesBefore_of_argmin (pairwise_among distancesA distancesB) lowest
    refine ((CommonAncestor.resolve?_eq_some_iff _ _ _).mpr ?_).symm
    rw [candidates_numbers]
    refine ⟨List.mem_map_of_mem member, fun other listed => ?_⟩
    obtain ⟨other, otherMember, rfl⟩ := List.mem_map.mp listed
    exact (least other otherMember).imp (congrArg counted)
      (comesBefore_iff_isNearer (fits' shared member) (fits' other otherMember)).mp

/-- Every distance is at most half of what a word holds. -/
def FitTwice (distances : IdMap Nat) : Prop :=
  ∀ entry ∈ distances.entries, 2 * entry.2 ≤ maxCount

/-- Such distances come back from words. -/
theorem numbers_words {distances : IdMap Nat} (small : FitTwice distances) :
    numbers (words distances) = distances := by
  refine IdMap.eq_of_get?_eq fun id => ?_
  rw [numbers, words, IdMap.get?_mapValues, IdMap.get?_mapValues, Option.map_map]
  cases found : distances.get? id with
  | none => rfl
  | some distance =>
    have half := small _ ((IdMap.mem_entries_iff distances id distance).mpr found)
    have fits : distance < UInt64.size := by
      simp only [maxCount] at half
      simp only [UInt64.size]
      omega
    simp only [Option.map_some, Function.comp_apply, UInt64.toNat_ofNat_of_lt' fits]

/-- The words of such distances are as small. -/
theorem two_mul_toNat_le {distances : IdMap Nat} (small : FitTwice distances) {id : PersonId} {k : UInt64}
    (found : (words distances).get? id = some k) : 2 * k.toNat ≤ maxCount := by
  -- The word is found again as the number that it was made of.
  have number : (numbers (words distances)).get? id = some k.toNat := by
    rw [numbers, IdMap.get?_mapValues, found, Option.map_some]
  rw [numbers_words small] at number
  exact small _ ((IdMap.mem_entries_iff distances id k.toNat).mpr number)

/-- The sums of such distances fit. -/
theorem sumsFit_words {distancesA distancesB : IdMap Nat} (smallA : FitTwice distancesA)
    (smallB : FitTwice distancesB) : SumsFit (words distancesA) (words distancesB) := by
  intro id k l first second
  have halfA := two_mul_toNat_le smallA first
  have halfB := two_mul_toNat_le smallB second
  omega

/-- What the walk over two maps of words answers, whatever its additions do. -/
structure Resolves (overflow : Overflow) (distancesA distancesB : IdMap UInt64) : Prop where
  /-- An addition that checks its sum ends the program exactly at a sum that does not fit. -/
  ended_iff : walk overflow distancesA distancesB = none ↔ overflow = .stops ∧ ¬SumsFit distancesA distancesB
  nobody_iff : walk overflow distancesA distancesB = some none ↔ ∀ id ∈ distancesA.keys, id ∉ distancesB.keys
  /-- Unless it is ended, the walk answers with the one who comes first by the sums that words hold. -/
  word_iff : ∀ shared, walk overflow distancesA distancesB = some (some shared) ↔
    (overflow = .stops → SumsFit distancesA distancesB) ∧ IsNearest distancesA distancesB shared
  unique : ∀ one other, IsNearest distancesA distancesB one → IsNearest distancesA distancesB other → one = other
  /-- Where all sums fit, the walk answers with the one who comes first by the true sums. -/
  number_iff : SumsFit distancesA distancesB → ∀ common,
    (walk overflow distancesA distancesB).map (Option.map counted) = some (some common) ↔
      CommonAncestor.IsNearestShared (numbers distancesA) (numbers distancesB) common
  exchange : walk overflow distancesB distancesA =
    (walk overflow distancesA distancesB).map (Option.map exchanged)

/-- For all maps of words the walk resolves the nearest shared ancestor. -/
theorem resolves (overflow : Overflow) (distancesA distancesB : IdMap UInt64) :
    Resolves overflow distancesA distancesB := by
  refine ⟨walk_eq_none_iff _ _ _, walk_eq_some_none_iff _ _ _, fun shared => ?_, fun one other => ?_,
    fun fits common => ?_, walk_exchange _ _ _⟩
  · rw [walk_eq_some_iff, argmin_among_eq_some_iff]
  · rw [← argmin_among_eq_some_iff, ← argmin_among_eq_some_iff]
    intro first second
    exact Option.some.inj (first.symm.trans second)
  · rw [walk_counted fits, Option.some.injEq, CommonAncestor.resolve?_eq_some_iff_isNearestShared]

/-- At a sum that does not fit the two additions differ. One goes on with zero, and the other one ends the walk. -/
example :
    let distancesA : IdMap UInt64 := .ofList [(⟨"c"⟩, 18446744073709551615), (⟨"d"⟩, 5)]
    let distancesB : IdMap UInt64 := .ofList [(⟨"c"⟩, 1), (⟨"d"⟩, 5)]
    walk .wraps distancesA distancesB = some (some ⟨⟨"c"⟩, 18446744073709551615, 1⟩) ∧
      walk .stops distancesA distancesB = none := by
  decide

end SharedAncestor

end Kindred
