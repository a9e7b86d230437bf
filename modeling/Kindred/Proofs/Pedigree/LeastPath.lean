import Kindred.Proofs.Pedigree.Ascent
import Kindred.Proofs.Pedigree.Path

/-! Each generation of a search lists its chains in increasing order, so the first chain to a person is the least of
the shortest. -/

namespace Kindred

/-- Read from below, a chain that goes one step further has its new top at the end. -/
theorem Chain.fromBottom_cons (id : PersonId) (chain : Chain) :
    Chain.fromBottom ⟨id, chain.top :: chain.below⟩ = chain.fromBottom ++ [id] := by
  simp [Chain.fromBottom]

/-- Of the chains to one person the first is kept. -/
theorem eq_or_before_of_mem_keepNew {before : Chain → Chain → Prop} {met : List PersonId}
    {chains : List Chain} (ordered : chains.Pairwise before) {kept other : Chain}
    (isKept : kept ∈ keepNew met chains) (member : other ∈ chains) (same : other.top = kept.top) :
    other = kept ∨ before kept other := by
  induction chains generalizing met with
  | nil => simp at member
  | cons chain rest ih =>
    obtain ⟨first, ordered⟩ := List.pairwise_cons.mp ordered
    rw [keepNew] at isKept
    split at isKept
    · -- The head has been met, so it leads to somebody else.
      rename_i seen
      have new : kept.top ∉ met :=
        ((mem_tops_keepNew met rest kept.top).mp (List.mem_map_of_mem isKept)).2
      cases List.mem_cons.mp member with
      | inl head =>
        rw [head] at same
        exact absurd (same ▸ seen) new
      | inr later => exact ih ordered isKept later
    · cases List.mem_cons.mp isKept with
      | inl head =>
        -- The kept chain is the head, and everything else comes after it.
        cases List.mem_cons.mp member with
        | inl otherHead => exact Or.inl (otherHead.trans head.symm)
        | inr later => exact Or.inr (head ▸ first other later)
      | inr keptLater =>
        -- The head counts as met, so it leads to somebody else.
        have new := ((mem_tops_keepNew _ rest kept.top).mp (List.mem_map_of_mem keptLater)).2
        cases List.mem_cons.mp member with
        | inl otherHead => exact absurd (by simp [← same, otherHead]) new
        | inr later => exact ih ordered keptLater later

/-- The chains of one generation: each is the least of the shortest to its top, and they stand in increasing order. -/
structure LeastLevel (above : PersonId → List PersonId) (start : PersonId) (height : Nat)
    (level : List Chain) : Prop where
  size : ∀ chain ∈ level, chain.fromBottom.length = height + 1
  least : ∀ chain ∈ level,
    IsLeastPath (fun up low => up ∈ above low) start chain.top chain.fromBottom
  ordered : level.Pairwise fun one other => one.fromBottom < other.fromBottom

variable {above : PersonId → List PersonId} {start low top : PersonId}

/-- The chains one step above a generation stand in increasing order, when the parents of everybody do. -/
theorem LeastLevel.ordered_extend {height : Nat} {level : List Chain}
    (leastLevel : LeastLevel above start height level)
    (increasing : ∀ id, (above id).Pairwise (· < ·)) :
    (level.flatMap (Chain.extend above)).Pairwise fun one other => one.fromBottom < other.fromBottom := by
  refine List.pairwise_flatMap.mpr ⟨fun chain _ => ?_, ?_⟩
  · -- Above one chain the new tops decide.
    rw [Chain.extend, List.pairwise_map]
    refine (increasing chain.top).imp fun below => ?_
    rw [Chain.fromBottom_cons, Chain.fromBottom_cons]
    exact List.append_left_lt (List.Lex.rel below)
  · -- Above two chains of one length these decide, whatever the new tops are.
    refine leastLevel.ordered.imp_of_mem fun {one other} oneListed otherListed below => ?_
    intro first firstAbove second secondAbove
    obtain ⟨up, _, rfl⟩ := List.mem_map.mp firstAbove
    obtain ⟨otherUp, _, rfl⟩ := List.mem_map.mp secondAbove
    rw [Chain.fromBottom_cons, Chain.fromBottom_cons]
    have size := (leastLevel.size one oneListed).trans (leastLevel.size other otherListed).symm
    exact append_lt_append below size [up] [otherUp]

/-- The chains of the next generation are the least of the shortest, too. -/
theorem LeastLevel.advance {height : Nat} {met : List PersonId} {level : List Chain}
    (searched : SearchedTo above start height met level)
    (leastLevel : LeastLevel above start height level)
    (increasing : ∀ id, (above id).Pairwise (· < ·)) :
    LeastLevel above start (height + 1) (keepNew met (level.flatMap (Chain.extend above))) := by
  have ordered := leastLevel.ordered_extend increasing
  have sublist := keepNew_sublist met (level.flatMap (Chain.extend above))
  -- Every new chain is a chain of the level with one person more.
  have made : ∀ chain ∈ keepNew met (level.flatMap (Chain.extend above)), ∃ below ∈ level,
      chain.top ∈ above below.top ∧ chain.fromBottom = below.fromBottom ++ [chain.top] := by
    intro chain kept
    obtain ⟨below, listed, extended⟩ := List.mem_flatMap.mp (sublist.subset kept)
    obtain ⟨up, isAbove, rfl⟩ := List.mem_map.mp extended
    exact ⟨below, listed, isAbove, Chain.fromBottom_cons up below⟩
  have size : ∀ chain ∈ keepNew met (level.flatMap (Chain.extend above)),
      chain.fromBottom.length = height + 1 + 1 := by
    intro chain kept
    obtain ⟨below, listed, _, whole⟩ := made chain kept
    rw [whole, List.length_append, leastLevel.size below listed, List.length_singleton]
  refine ⟨size, fun chain kept => ?_, ordered.sublist sublist⟩
  obtain ⟨below, listed, isAbove, whole⟩ := made chain kept
  have far := (searched.next_iff chain.top).mp (List.mem_map_of_mem kept)
  refine .of_isDistance (whole ▸ (leastLevel.least below listed).leads.concat isAbove) far (size chain kept) ?_
  intro other leads otherSize
  -- Another list of that length ends with a step from somebody of the level.
  rw [size chain kept] at otherSize
  cases leads.eq_single_or_concat with
  | inl alone => simp [alone.1] at otherSize
  | inr longer =>
    obtain ⟨rest, middle, rfl, restLeads, up⟩ := longer
    have restSize : rest.length = height + 1 := by simpa using otherSize
    obtain ⟨steps, restSteps, climbed⟩ := restLeads.ascends
    have counted : steps = height := by omega
    have stands := (searched.level_iff middle).mpr (far.before_step (counted ▸ climbed) up)
    obtain ⟨lower, lowerListed, lowerTop⟩ := List.mem_map.mp stands
    -- The level has the least list to that person, and what it becomes above is at most the other one.
    have extended : ⟨chain.top, lower.top :: lower.below⟩ ∈ level.flatMap (Chain.extend above) :=
      List.mem_flatMap.mpr ⟨lower, lowerListed, List.mem_map.mpr ⟨chain.top, lowerTop ▸ up, rfl⟩⟩
    have first := eq_or_before_of_mem_keepNew ordered kept extended rfl
    have lowerSize := leastLevel.size lower lowerListed
    have lowerLeast := (leastLevel.least lower lowerListed).least rest (lowerTop ▸ restLeads)
      (restSize.trans lowerSize.symm)
    have ended : rest ++ [chain.top] = lower.fromBottom ++ [chain.top] ∨
        lower.fromBottom ++ [chain.top] < rest ++ [chain.top] := by
      refine lowerLeast.imp (fun same => by rw [same]) fun less => ?_
      exact append_lt_append less (lowerSize.trans restSize.symm) _ _
    rw [← Chain.fromBottom_cons] at ended
    exact eq_or_lt_trans (first.imp_left (congrArg Chain.fromBottom)) ended

/-- The search starts from the least of the shortest lists, that of the start alone. -/
theorem leastLevel_single (above : PersonId → List PersonId) (start : PersonId) :
    LeastLevel above start 0 [Chain.single start] := by
  refine ⟨?_, ?_, List.pairwise_singleton ..⟩
  · intro chain listed
    rw [List.mem_singleton.mp listed]
    rfl
  · intro chain listed
    rw [List.mem_singleton.mp listed]
    exact IsLeastPath.single start

/-- Every generation that the search lists holds the least of the shortest lists. -/
theorem leastLevel_generations (increasing : ∀ id, (above id).Pairwise (· < ·)) {height rounds : Nat}
    {met : List PersonId} {level : List Chain} (searched : SearchedTo above start height met level)
    (leastLevel : LeastLevel above start height level) {place : Nat} {found : List Chain}
    (listed : (generations above rounds met level)[place]? = some found) :
    LeastLevel above start (height + 1 + place) found := by
  -- Every round lists one generation, from which the next round goes on.
  induction rounds generalizing height met level place with
  | zero => simp [generations] at listed
  | succ rounds ih =>
    have next := leastLevel.advance searched increasing
    simp only [generations] at listed
    split at listed
    · simp at listed
    · cases place with
      | zero =>
        have same : keepNew met (level.flatMap (Chain.extend above)) = found := by simpa using listed
        exact same ▸ next
      | succ place =>
        have later := ih searched.advance next (by simpa using listed)
        simpa only [Nat.add_assoc, Nat.add_comm 1] using later

namespace KinTable

variable {table : KinTable}

/-- A chain that a table shows above a person is the least of the shortest, and its place tells how long it is. -/
theorem isLeastPath_of_listed (increasing : ∀ id, (table.parents id).Pairwise (· < ·)) {place : Nat}
    {level : List Chain} (listed : (table.generationsAbove start)[place]? = some level) {chain : Chain}
    (member : chain ∈ level) :
    IsLeastPath (fun up low => up ∈ table.parents low) start chain.top chain.fromBottom ∧
      chain.fromBottom.length = place + 2 := by
  have found := leastLevel_generations increasing (searchedTo_single table.parents start)
    (leastLevel_single table.parents start) listed
  refine ⟨found.least chain member, ?_⟩
  rw [found.size chain member]
  omega

/-- Somebody above a person is the top of a chain in the generation at that distance. -/
theorem exists_listed {id : PersonId} {place : Nat}
    (far : IsDistance (fun up low => up ∈ table.parents low) start id (place + 1)) :
    ∃ level, (table.generationsAbove start)[place]? = some level ∧ ∃ chain ∈ level, chain.top = id := by
  have member := (mem_generationsFrom (fun _ _ => table.mem_namedParents)
    (Nat.le_of_eq table.parentCount_eq.symm) place id).mpr far
  -- A generation that is not listed would be empty.
  rw [← generationsAbove, List.getD_eq_getElem?_getD] at member
  cases listed : (table.generationsAbove start)[place]? with
  | none => simp [listed] at member
  | some level =>
    simp only [listed, Option.getD_some] at member
    exact ⟨level, rfl, List.mem_map.mp member⟩

/-- Between different people, the search for a chain answers with one that is listed early enough. -/
theorem ancestryPath_of_ne (differ : low ≠ top) (maxDepth : Nat) :
    table.ancestryPath low top maxDepth =
      (((table.generationsAbove low).take maxDepth).flatten.find? fun chain =>
        chain.top = top).map Chain.fromBottom :=
  if_neg differ

/-- The search for a chain up to an ancestor finds the least of the shortest ones, unless it has more steps than
are allowed. -/
theorem ancestryPath_eq_some_iff (increasing : ∀ id, (table.parents id).Pairwise (· < ·))
    (low top : PersonId) (maxDepth : Nat) (path : List PersonId) :
    table.ancestryPath low top maxDepth = some path ↔
      IsLeastPath (fun up low => up ∈ table.parents low) low top path ∧ path.length ≤ maxDepth + 1 := by
  by_cases same : low = top
  · -- A person is the chain from himself or herself.
    subst same
    have alone : table.ancestryPath low low maxDepth = some [low] := if_pos rfl
    rw [alone, Option.some.injEq]
    constructor
    · intro equal
      rw [← equal]
      exact ⟨.single low, by simp⟩
    · intro found
      exact (IsLeastPath.single low).unique found.1
  · rw [ancestryPath_of_ne same]
    -- Whatever chain is found has been listed in one of the generations that are looked through.
    have shown : ∀ chain, ((table.generationsAbove low).take maxDepth).flatten.find?
        (fun chain => chain.top = top) = some chain →
        IsLeastPath (fun up low => up ∈ table.parents low) low top chain.fromBottom ∧
          chain.fromBottom.length ≤ maxDepth + 1 := by
      intro chain found
      have reached : chain.top = top := by simpa using List.find?_some found
      obtain ⟨level, taken, member⟩ := List.mem_flatten.mp (List.mem_of_find?_eq_some found)
      obtain ⟨place, located⟩ := List.mem_iff_getElem?.mp taken
      obtain ⟨early, listed⟩ : place < maxDepth ∧ (table.generationsAbove low)[place]? = some level := by
        rw [List.getElem?_take] at located
        split at located
        · exact ⟨‹_›, located⟩
        · simp at located
      obtain ⟨least, size⟩ := isLeastPath_of_listed increasing listed member
      exact ⟨reached ▸ least, by omega⟩
    constructor
    · intro found
      obtain ⟨chain, located, rfl⟩ := Option.map_eq_some_iff.mp found
      exact shown chain located
    · intro wanted
      obtain ⟨least, short⟩ := wanted
      obtain ⟨distance, size, far⟩ := least.exists_isDistance
      obtain ⟨place, rfl⟩ : ∃ place, distance = place + 1 := by
        cases distance with
        | zero => exact absurd (IsDistance.zero_iff.mp far) same
        | succ place => exact ⟨place, rfl⟩
      -- The generation at that distance is looked through, and it has a chain to the ancestor.
      obtain ⟨level, listed, chain, member, reached⟩ := exists_listed far
      have taken : ((table.generationsAbove low).take maxDepth)[place]? = some level := by
        rw [List.getElem?_take, if_pos (by omega), listed]
      have found : (((table.generationsAbove low).take maxDepth).flatten.find?
          fun chain => chain.top = top).isSome := by
        rw [List.find?_isSome]
        exact ⟨chain, List.mem_flatten.mpr ⟨level, List.mem_of_getElem? taken, member⟩, by simpa using reached⟩
      obtain ⟨first, located⟩ := Option.isSome_iff_exists.mp found
      rw [located, Option.map_some, (shown first located).1.unique least]

/-- Up to everybody who stands above a person there is a least one of the shortest lists. -/
theorem exists_isLeastPath (increasing : ∀ id, (table.parents id).Pairwise (· < ·)) {low top : PersonId}
    {distance : Nat} (far : IsDistance (fun up low => up ∈ table.parents low) low top distance) :
    ∃ path, IsLeastPath (fun up low => up ∈ table.parents low) low top path ∧ path.length = distance + 1 := by
  cases distance with
  | zero =>
    have same := IsDistance.zero_iff.mp far
    exact ⟨[low], same ▸ .single low, rfl⟩
  | succ place =>
    obtain ⟨level, listed, chain, member, reached⟩ := exists_listed far
    obtain ⟨least, size⟩ := isLeastPath_of_listed increasing listed member
    exact ⟨chain.fromBottom, reached ▸ least, size⟩

end KinTable

end Kindred
