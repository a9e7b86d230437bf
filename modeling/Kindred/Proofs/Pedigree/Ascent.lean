import Kindred.Pedigree.Ascent
import Kindred.Proofs.IdMap
import Kindred.Proofs.Pedigree.Distance

/-! The search upwards finds every ancestor, in the generation of the least number of steps. -/

namespace Kindred

/-- Of some chains those are kept whose top has not been met. -/
theorem mem_tops_keepNew (met : List PersonId) (chains : List Chain) (id : PersonId) :
    id ∈ (keepNew met chains).map Chain.top ↔ id ∈ chains.map Chain.top ∧ id ∉ met := by
  -- A kept top counts as met afterwards, so later chains to it are passed over.
  induction chains generalizing met with
  | nil => simp [keepNew]
  | cons chain rest ih =>
    rw [keepNew]
    split
    · -- The chain is passed over, and its top is not asked for.
      rename_i seen
      rw [ih, List.map_cons, List.mem_cons]
      constructor
      · rintro ⟨member, new⟩
        exact ⟨Or.inr member, new⟩
      · rintro ⟨same | member, new⟩
        · exact absurd (same ▸ seen) new
        · exact ⟨member, new⟩
    · -- The chain is kept, and its top counts as met for the rest.
      rename_i unseen
      rw [List.map_cons, List.map_cons, List.mem_cons, List.mem_cons, ih, List.mem_cons]
      by_cases same : id = chain.top
      · simp [same, unseen]
      · simp [same]

/-- The chains that are kept stand in the order in which they came. -/
theorem keepNew_sublist (met : List PersonId) (chains : List Chain) :
    (keepNew met chains).Sublist chains := by
  induction chains generalizing met with
  | nil => exact List.Sublist.slnil
  | cons chain rest ih =>
    rw [keepNew]
    split
    · exact (ih met).cons chain
    · exact (ih _).cons_cons chain

/-- The tops one step above some chains are the people above their tops. -/
theorem mem_tops_extend (above : PersonId → List PersonId) (level : List Chain) (id : PersonId) :
    id ∈ (level.flatMap (Chain.extend above)).map Chain.top ↔
      ∃ below ∈ level.map Chain.top, id ∈ above below := by
  -- Every chain is extended by each person above its top.
  simp only [List.mem_map, List.mem_flatMap, Chain.extend]
  constructor
  · rintro ⟨_, ⟨chain, member, next, up, rfl⟩, rfl⟩
    exact ⟨chain.top, ⟨chain, member, rfl⟩, up⟩
  · rintro ⟨_, ⟨chain, member, rfl⟩, up⟩
    exact ⟨_, ⟨chain, member, id, up, rfl⟩, rfl⟩

/-- The search stands at one height: it has met everybody up to there, and its level holds the people
at that height. -/
structure SearchedTo (above : PersonId → List PersonId) (start : PersonId) (height : Nat)
    (met : List PersonId) (level : List Chain) : Prop where
  met_iff : ∀ id, id ∈ met ↔
    ∃ distance, distance ≤ height ∧ IsDistance (fun up low => up ∈ above low) start id distance
  level_iff : ∀ id, id ∈ level.map Chain.top ↔
    IsDistance (fun up low => up ∈ above low) start id height

variable {above : PersonId → List PersonId} {start : PersonId}

/-- The new tops of a round are the people one generation further up. -/
theorem SearchedTo.next_iff {height : Nat} {met : List PersonId} {level : List Chain}
    (searched : SearchedTo above start height met level) (id : PersonId) :
    id ∈ (keepNew met (level.flatMap (Chain.extend above))).map Chain.top ↔
      IsDistance (fun up low => up ∈ above low) start id (height + 1) := by
  -- They are above somebody of the level and have not been met.
  rw [mem_tops_keepNew, mem_tops_extend, IsDistance.succ_iff, searched.met_iff]
  refine and_congr ⟨?_, ?_⟩ ⟨?_, ?_⟩
  · rintro ⟨below, member, up⟩
    exact ⟨below, (searched.level_iff below).mp member, up⟩
  · rintro ⟨below, distance, up⟩
    exact ⟨below, (searched.level_iff below).mpr distance, up⟩
  · intro unmet nearer less distance
    exact unmet ⟨nearer, less, distance⟩
  · rintro far ⟨nearer, less, distance⟩
    exact far nearer less distance

/-- A round takes the search one generation further up. -/
theorem SearchedTo.advance {height : Nat} {met : List PersonId} {level : List Chain}
    (searched : SearchedTo above start height met level) :
    SearchedTo above start (height + 1)
      ((keepNew met (level.flatMap (Chain.extend above))).map Chain.top ++ met)
      (keepNew met (level.flatMap (Chain.extend above))) := by
  -- The people met are the new ones and those met before.
  refine ⟨fun id => ?_, searched.next_iff⟩
  rw [List.mem_append, searched.next_iff, searched.met_iff]
  constructor
  · rintro (distance | ⟨distance, low, found⟩)
    · exact ⟨height + 1, Nat.le_refl _, distance⟩
    · exact ⟨distance, Nat.le_succ_of_le low, found⟩
  · rintro ⟨distance, low, found⟩
    rcases Nat.lt_or_eq_of_le low with less | same
    · exact Or.inr ⟨distance, Nat.le_of_lt_succ less, found⟩
    · exact Or.inl (same ▸ found)

/-- Before the first round, only the start has been met. -/
theorem searchedTo_single (above : PersonId → List PersonId) (start : PersonId) :
    SearchedTo above start 0 [start] [Chain.single start] := by
  refine ⟨fun id => ?_, fun id => ?_⟩
  · simp [IsDistance.zero_iff, eq_comm]
  · simp [IsDistance.zero_iff, Chain.single, eq_comm]

/-- As far as its rounds go, the search lists each generation in full. -/
theorem mem_generations {height rounds : Nat} {met : List PersonId} {level : List Chain}
    (searched : SearchedTo above start height met level) {place : Nat} (inRounds : place < rounds)
    (id : PersonId) :
    id ∈ ((generations above rounds met level).getD place []).map Chain.top ↔
      IsDistance (fun up low => up ∈ above low) start id (height + 1 + place) := by
  -- Every round lists one generation. An empty one has nobody above it either.
  induction rounds generalizing height met level place with
  | zero => omega
  | succ rounds ih =>
    simp only [generations]
    split
    · -- The search ends here, because nobody stands at this height.
      rename_i nobody
      refine iff_of_false (by simp) fun distance => ?_
      obtain ⟨middle, lower, _⟩ := distance.split
      have member := (searched.next_iff middle).mpr lower
      rw [List.isEmpty_iff.mp nobody] at member
      simp at member
    · -- The level is listed first, and the rounds after it list the generations above.
      cases place with
      | zero => simpa using searched.next_iff id
      | succ place =>
        have later := ih searched.advance (Nat.lt_of_succ_lt_succ inRounds)
        simpa only [List.getD_cons_succ, Nat.add_assoc, Nat.add_comm 1] using later

/-- The search lists at most as many generations as it has rounds. -/
theorem length_generations (above : PersonId → List PersonId) (rounds : Nat) (met : List PersonId)
    (level : List Chain) : (generations above rounds met level).length ≤ rounds := by
  -- Every round lists one generation or ends the search.
  induction rounds generalizing met level with
  | zero => simp [generations]
  | succ rounds ih =>
    simp only [generations]
    split
    · simp
    · simpa using ih _ _

/-- With a round for everybody who can be named, the search lists each generation above a person. -/
theorem mem_generationsFrom {everybody : List PersonId} {bound : Nat}
    (named : ∀ low, ∀ up ∈ above low, up ∈ everybody) (enough : everybody.length ≤ bound)
    (place : Nat) (id : PersonId) :
    id ∈ ((generationsFrom above bound start).getD place []).map Chain.top ↔
      IsDistance (fun up low => up ∈ above low) start id (place + 1) := by
  -- Nobody stands higher than there are rounds.
  by_cases inRounds : place < bound
  · simpa only [generationsFrom, Nat.zero_add, Nat.add_comm] using
      mem_generations (searchedTo_single above start) inRounds id
  · -- Beyond the rounds nothing is listed, and no distance reaches that far.
    have short := length_generations above bound [start] [Chain.single start]
    rw [generationsFrom, List.getD_eq_getElem?_getD, List.getElem?_eq_none (by omega)]
    refine iff_of_false (by simp) fun distance => ?_
    have := distance.le_length fun up low member => named low up member
    omega

/-- Somebody stands above a person at a distance exactly when the generation at that distance lists
them. -/
theorem isAncestorAt_iff_mem_generation {everybody : List PersonId} {bound : Nat}
    (named : ∀ low, ∀ up ∈ above low, up ∈ everybody) (enough : everybody.length ≤ bound)
    (id : PersonId) (distance : Nat) :
    IsAncestorAt (fun up low => up ∈ above low) start id distance ↔
      ∃ place, distance = place + 1 ∧ ∃ level, (generationsFrom above bound start)[place]? = some level ∧
        id ∈ level.map Chain.top := by
  -- The start is the only person at distance zero, and generations are counted from one.
  have listed : ∀ place, (∃ level, (generationsFrom above bound start)[place]? = some level ∧
      id ∈ level.map Chain.top) ↔
      IsDistance (fun up low => up ∈ above low) start id (place + 1) := by
    intro place
    rw [← mem_generationsFrom named enough, List.getD_eq_getElem?_getD]
    cases (generationsFrom above bound start)[place]? <;> simp
  simp only [listed]
  constructor
  · rintro ⟨differ, found⟩
    cases distance with
    | zero => exact absurd (IsDistance.zero_iff.mp found).symm differ
    | succ place => exact ⟨place, rfl, found⟩
  · rintro ⟨place, rfl, found⟩
    refine ⟨fun same => ?_, found⟩
    subst same
    have := found.unique (IsDistance.self id)
    omega

/-- The search reaches exactly the ancestors. -/
theorem mem_tops_generationsFrom {everybody : List PersonId} {bound : Nat}
    (named : ∀ low, ∀ up ∈ above low, up ∈ everybody) (enough : everybody.length ≤ bound)
    (id : PersonId) :
    id ∈ (generationsFrom above bound start).flatten.map Chain.top ↔
      ∃ distance, IsAncestorAt (fun up low => up ∈ above low) start id distance := by
  -- Every chain that was found stands in one of the generations.
  simp only [isAncestorAt_iff_mem_generation named enough, List.map_flatten, List.mem_flatten,
    List.mem_map (f := List.map Chain.top)]
  constructor
  · rintro ⟨_, ⟨level, listed, rfl⟩, member⟩
    obtain ⟨place, located⟩ := List.mem_iff_getElem?.mp listed
    exact ⟨place + 1, place, rfl, level, located, member⟩
  · rintro ⟨_, place, _, level, located, member⟩
    exact ⟨_, ⟨level, List.mem_of_getElem? located, rfl⟩, member⟩

namespace KinTable

variable (table : KinTable)

/-- Everybody named as a parent in some row. -/
def namedParents : List PersonId :=
  table.parentsOf.entries.flatMap Prod.snd

/-- The number of parents named in all rows together. -/
theorem parentCount_eq : table.parentCount = table.namedParents.length := by
  -- The rows are counted one after the other.
  rw [parentCount, namedParents]
  induction table.parentsOf.entries with
  | nil => rfl
  | cons entry rest ih => rw [List.foldr_cons, ih, List.flatMap_cons, List.length_append]

/-- The parents of a person are named in that person's row. -/
theorem mem_namedParents {id child : PersonId} (member : id ∈ table.parents child) :
    id ∈ table.namedParents := by
  -- A row that is not empty is an entry of the table.
  rw [parents] at member
  cases found : table.parentsOf.get? child with
  | none => simp [found] at member
  | some row =>
    rw [found] at member
    have entry := (IdMap.mem_entries_iff table.parentsOf child row).mpr found
    exact List.mem_flatMap.mpr ⟨(child, row), entry, member⟩

/-- The people of each generation above a person, with the number of the generation. -/
def standings (start : PersonId) : List (PersonId × Nat) :=
  ((table.generationsAbove start).zipIdx 1).flatMap fun entry =>
    entry.1.map fun chain => (chain.top, entry.2)

/-- The people of the generations are the ancestors, each with the distance. -/
theorem mem_standings (start id : PersonId) (distance : Nat) :
    (id, distance) ∈ table.standings start ↔
      IsAncestorAt (fun up low => up ∈ table.parents low) start id distance := by
  -- There are enough rounds, because only people who stand in a row can be named.
  have named : ∀ low, ∀ up ∈ table.parents low, up ∈ table.namedParents :=
    fun _ _ => table.mem_namedParents
  have enough : table.namedParents.length ≤ table.parentCount := Nat.le_of_eq table.parentCount_eq.symm
  rw [isAncestorAt_iff_mem_generation named enough, standings, List.mem_flatMap]
  simp only [List.mem_map, Prod.mk.injEq, Prod.exists, List.mk_mem_zipIdx_iff_le_and_getElem?_sub]
  constructor
  · rintro ⟨level, _, ⟨positive, located⟩, chain, member, rfl, rfl⟩
    exact ⟨_, (Nat.sub_add_cancel positive).symm, level, located, chain, member, rfl⟩
  · rintro ⟨place, rfl, level, located, chain, member, rfl⟩
    exact ⟨level, place + 1, ⟨by omega, by simpa [generationsAbove] using located⟩, chain, member, rfl, rfl⟩

/-- The walk up through the rows of a table maps each ancestor to its distance, and nobody else to
anything. -/
theorem get?_ancestorDistances (start id : PersonId) (distance : Nat) :
    (table.ancestorDistances start).get? id = some distance ↔
      IsAncestorAt (fun up low => up ∈ table.parents low) start id distance := by
  -- Nobody has two distances, so the map holds what the generations tell.
  have agree : IdMap.Agree (table.standings start) := by
    intro id first second one other
    rw [mem_standings] at one other
    exact one.2.unique other.2
  have made : table.ancestorDistances start = IdMap.ofList (table.standings start) := rfl
  rw [made, IdMap.get?_ofList_eq_some agree, mem_standings]

end KinTable

end Kindred
