import Kindred.Proofs.Pedigree.Ascent
import Mathlib.Data.List.Basic

/-! A search upwards asks for the parents of the people it meets and of nobody else, and rounds beyond the last
generation change nothing. -/

namespace Kindred

/-- Everybody on a chain is inside a group. -/
def Chain.Within (inside : PersonId → Prop) (chain : Chain) : Prop :=
  -- The top is listed apart from the others.
  ∀ id ∈ chain.top :: chain.below, inside id

variable {inside : PersonId → Prop} {above other : PersonId → List PersonId} {start : PersonId}

/-- A group that holds the parents of its members holds the chains one step above its chains. -/
theorem within_extend (closed : ∀ id, inside id → ∀ up ∈ above id, inside up) {level : List Chain}
    (within : ∀ chain ∈ level, chain.Within inside) :
    ∀ chain ∈ level.flatMap (Chain.extend above), chain.Within inside := by
  intro chain member
  obtain ⟨below, listed, extended⟩ := List.mem_flatMap.mp member
  obtain ⟨up, isAbove, rfl⟩ := List.mem_map.mp extended
  -- The new top is above a member, and everybody below it was on the chain before.
  intro id onChain
  rcases List.mem_cons.mp onChain with same | before
  · rw [same]
    exact closed below.top (within below listed below.top (by simp)) up isAbove
  · exact within below listed id before

/-- Such a group holds every chain that a search from inside finds. -/
theorem within_generations (closed : ∀ id, inside id → ∀ up ∈ above id, inside up) (rounds : Nat)
    {met : List PersonId} {level : List Chain} (within : ∀ chain ∈ level, chain.Within inside) :
    ∀ chain ∈ (generations above rounds met level).flatten, chain.Within inside := by
  -- The chains of each round are inside when those of the round before are.
  induction rounds generalizing met level with
  | zero => simp [generations]
  | succ rounds ih =>
    have next : ∀ chain ∈ keepNew met (level.flatMap (Chain.extend above)), chain.Within inside :=
      fun chain member => within_extend closed within chain ((keepNew_sublist _ _).subset member)
    simp only [generations]
    split
    · simp
    · intro chain member
      rcases List.mem_append.mp (List.flatten_cons ▸ member) with here | later
      · exact next chain here
      · exact ih next chain later

/-- Two ways to name parents that agree inside such a group lead to the same generations. -/
theorem generations_congr (closed : ∀ id, inside id → ∀ up ∈ above id, inside up)
    (same : ∀ id, inside id → above id = other id) (rounds : Nat) {met : List PersonId}
    {level : List Chain} (within : ∀ chain ∈ level, chain.Within inside) :
    generations above rounds met level = generations other rounds met level := by
  induction rounds generalizing met level with
  | zero => rfl
  | succ rounds ih =>
    -- Only the tops of the level are asked for their parents.
    have extended : level.flatMap (Chain.extend above) = level.flatMap (Chain.extend other) := by
      refine List.flatMap_congr fun chain member => ?_
      rw [Chain.extend, Chain.extend, same chain.top (within chain member chain.top (by simp))]
    have next : ∀ chain ∈ keepNew met (level.flatMap (Chain.extend other)), chain.Within inside := by
      intro chain member
      exact within_extend closed within chain (extended ▸ (keepNew_sublist _ _).subset member)
    simp only [generations, extended]
    rw [ih next]

/-- More rounds go on where fewer rounds end. -/
theorem take_generations (above : PersonId → List PersonId) (rounds more : Nat) (met : List PersonId)
    (level : List Chain) :
    (generations above (rounds + more) met level).take rounds = generations above rounds met level := by
  induction rounds generalizing met level with
  | zero => simp [generations]
  | succ rounds ih =>
    rw [Nat.add_right_comm]
    simp only [generations]
    split
    · rfl
    · rw [List.take_succ_cons, ih]

/-- No empty generation is listed. -/
theorem ne_nil_of_mem_generations {rounds : Nat} {met : List PersonId} {level found : List Chain}
    (listed : found ∈ generations above rounds met level) : found ≠ [] := by
  induction rounds generalizing met level with
  | zero => simp [generations] at listed
  | succ rounds ih =>
    simp only [generations] at listed
    split at listed
    · simp at listed
    · rename_i somebody
      rcases List.mem_cons.mp listed with same | later
      · rw [same]
        exact fun empty => somebody (List.isEmpty_iff.mpr empty)
      · exact ih later

/-- Where there are enough rounds, no more generations are listed than people can be named. -/
theorem length_generationsFrom_le {everybody : List PersonId}
    (named : ∀ low, ∀ up ∈ above low, up ∈ everybody) {bound : Nat}
    (enough : everybody.length ≤ bound) :
    (generationsFrom above bound start).length ≤ everybody.length := by
  -- Somebody stands in a generation further up, and no distance reaches that far.
  refine Nat.le_of_not_lt fun further => ?_
  have listed := List.getElem_mem further
  obtain ⟨chain, member⟩ := List.exists_mem_of_ne_nil _ (ne_nil_of_mem_generations listed)
  have far := (mem_generationsFrom named enough everybody.length chain.top).mp (by
    rw [List.getD_eq_getElem?_getD, List.getElem?_eq_getElem further]
    exact List.mem_map_of_mem member)
  have near := far.le_length fun up low isAbove => named low up isAbove
  omega

/-- Rounds beyond the number of people who can be named change nothing. -/
theorem generationsFrom_add {everybody : List PersonId}
    (named : ∀ low, ∀ up ∈ above low, up ∈ everybody) {bound : Nat}
    (enough : everybody.length ≤ bound) (more : Nat) :
    generationsFrom above (bound + more) start = generationsFrom above bound start := by
  have short : (generationsFrom above (bound + more) start).length ≤ bound :=
    Nat.le_trans (length_generationsFrom_le named (Nat.le_add_right_of_le enough)) enough
  rw [generationsFrom, generationsFrom, ← take_generations above bound more, ← generationsFrom,
    List.take_of_length_le short]

namespace KinTable

/-- Two tables name the same parents inside a group that holds the parents of its members. -/
structure AgreeOn (inside : PersonId → Prop) (first second : KinTable) : Prop where
  closed : ∀ id, inside id → ∀ up ∈ first.parents id, inside up
  same : ∀ id, inside id → first.parents id = second.parents id

variable {first second : KinTable}

/-- The generations of a table are those of any number of rounds that is large enough. -/
theorem generationsAbove_eq (table : KinTable) (start : PersonId) (more : Nat) :
    table.generationsAbove start = generationsFrom table.parents (table.parentCount + more) start := by
  rw [generationsAbove, generationsFrom_add (fun _ _ => table.mem_namedParents)
    (Nat.le_of_eq table.parentCount_eq.symm)]

/-- Inside the group both tables show the same generations. -/
theorem AgreeOn.generationsAbove (agree : AgreeOn inside first second) (here : inside start) :
    first.generationsAbove start = second.generationsAbove start := by
  -- The tables may name different numbers of parents outside, so both get the rounds of both.
  have within : ∀ chain ∈ [Chain.single start], chain.Within inside := by
    simpa [Chain.Within, Chain.single] using here
  rw [generationsAbove_eq first start second.parentCount,
    generationsAbove_eq second start first.parentCount, Nat.add_comm second.parentCount]
  exact generations_congr agree.closed agree.same _ within

/-- Inside the group both tables show the same distances. -/
theorem AgreeOn.ancestorDistances (agree : AgreeOn inside first second) (here : inside start) :
    first.ancestorDistances start = second.ancestorDistances start := by
  rw [KinTable.ancestorDistances, agree.generationsAbove here, ← KinTable.ancestorDistances]

/-- Inside the group both tables show the same chains. -/
theorem AgreeOn.ancestryPath (agree : AgreeOn inside first second) (here : inside start)
    (ancestor : PersonId) (maxDepth : Nat) :
    first.ancestryPath start ancestor maxDepth = second.ancestryPath start ancestor maxDepth := by
  rw [KinTable.ancestryPath, agree.generationsAbove here, ← KinTable.ancestryPath]

/-- A chain from somebody of the group stays in it. -/
theorem AgreeOn.inside_of_mem_ancestryPath (agree : AgreeOn inside first second) (here : inside start)
    {ancestor : PersonId} {maxDepth : Nat} {path : List PersonId}
    (found : first.ancestryPath start ancestor maxDepth = some path) : ∀ id ∈ path, inside id := by
  rw [KinTable.ancestryPath] at found
  split at found
  · -- The chain of one person is that person.
    cases found
    simpa using here
  · obtain ⟨chain, located, rfl⟩ := Option.map_eq_some_iff.mp found
    have within : ∀ chain ∈ [Chain.single start], chain.Within inside := by
      simpa [Chain.Within, Chain.single] using here
    have listed : chain ∈ (first.generationsAbove start).flatten := by
      obtain ⟨level, taken, member⟩ := List.mem_flatten.mp (List.mem_of_find?_eq_some located)
      exact List.mem_flatten.mpr ⟨level, List.mem_of_mem_take taken, member⟩
    intro id member
    exact within_generations agree.closed _ within chain listed id (List.mem_reverse.mp member)

/-- Everybody at a distance above somebody of the group is in it. -/
theorem AgreeOn.inside_of_get?_ancestorDistances (agree : AgreeOn inside first second)
    (here : inside start) {id : PersonId} {distance : Nat}
    (found : (first.ancestorDistances start).get? id = some distance) : inside id := by
  -- A chain of parents does not leave the group.
  have chain := ((first.get?_ancestorDistances start id distance).mp found).2.ascends
  clear found
  induction chain with
  | refl => exact here
  | step _ up ih => exact agree.closed _ (ih here) _ up

end KinTable

end Kindred
