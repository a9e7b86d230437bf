import Kindred.Pedigree.PointerWalk
import Kindred.Proofs.Pedigree.LeastPath
import Kindred.Proofs.Pedigree.Locality
import Kindred.Proofs.Pedigree.Table

/-! The walk with pointers ends, and it answers with the chain that the generations show: the least of the shortest,
when it is short enough. -/

namespace Kindred

/-- From a person pointers lead down along some others, and end there. -/
def PointsDown (pointers : IdMap PersonId) : PersonId → List PersonId → Prop
  -- The start has been met without anybody below.
  | id, [] => pointers.get? id = none
  | id, next :: rest => pointers.get? id = some next ∧ PointsDown pointers next rest

/-- A pointer of somebody else does not matter. -/
theorem PointsDown.insert {pointers : IdMap PersonId} {id : PersonId} {below : List PersonId}
    (down : PointsDown pointers id below) {new : PersonId} (apart : new ∉ id :: below) (target : PersonId) :
    PointsDown (pointers.insert new target) id below := by
  induction below generalizing id with
  | nil =>
    have differ : id ≠ new := by simpa [eq_comm] using apart
    rw [PointsDown, IdMap.get?_insert, if_neg differ]
    exact down
  | cons next rest ih =>
    obtain ⟨points, further⟩ := down
    rw [List.mem_cons, not_or] at apart
    obtain ⟨differ, others⟩ := apart
    refine ⟨?_, ih further others⟩
    rw [IdMap.get?_insert, if_neg (Ne.symm differ)]
    exact points

/-- Whether somebody is met again depends only on who has been met. -/
theorem keepNew_congr {met other : List PersonId} (same : ∀ id, id ∈ met ↔ id ∈ other)
    (chains : List Chain) : keepNew met chains = keepNew other chains := by
  induction chains generalizing met other with
  | nil => rfl
  | cons chain rest ih =>
    have more : ∀ id, id ∈ chain.top :: met ↔ id ∈ chain.top :: other := by
      intro id
      simp only [List.mem_cons, same id]
    simp only [keepNew, same chain.top, ih same, ih more]

/-- The chains of two lists are kept one list after the other. -/
theorem keepNew_append (met : List PersonId) (first second : List Chain) :
    keepNew met (first ++ second) =
      keepNew met first ++ keepNew ((keepNew met first).map Chain.top ++ met) second := by
  induction first generalizing met with
  | nil => rfl
  | cons chain rest ih =>
    simp only [List.cons_append, keepNew]
    split
    · exact ih met
    · rw [ih]
      simp only [List.cons_append, List.map_cons]
      congr 1
      congr 1
      refine keepNew_congr ?_ second
      intro id
      simp only [List.mem_append, List.mem_cons]
      tauto

variable {above : PersonId → List PersonId} {ancestor : PersonId} {maxDepth height : Nat}
  {search between after : PointerSearch}

namespace PointerSearch

/-- A search knows a chain when its pointers lead down along it and everybody on it has been met. -/
structure Knows (search : PointerSearch) (chain : Chain) : Prop where
  down : PointsDown search.below chain.top chain.below
  met : chain.Within (· ∈ search.met)

/-- What a search knows does not depend on who waits in the queue. -/
theorem knows_withQueue_iff {chain : Chain} (queue : List (PersonId × Nat)) :
    Knows { search with queue := queue } chain ↔ search.Knows chain :=
  ⟨fun knows => ⟨knows.down, knows.met⟩, fun knows => ⟨knows.down, knows.met⟩⟩

/-- Whoever is met, the chains known before stay known: the new pointer is that of somebody who stands on none. -/
theorem Knows.meet {chain : Chain} (knows : search.Knows chain) (person : PersonId) (height : Nat)
    (id : PersonId) : (search.meet person height id).Knows chain := by
  rw [PointerSearch.meet]
  split
  · exact knows
  · rename_i new
    have apart : id ∉ chain.top :: chain.below := fun passed => new (knows.met id passed)
    exact ⟨knows.down.insert apart person, fun other passed => List.mem_cons_of_mem id (knows.met other passed)⟩

/-- Somebody new who is met above the top of a chain makes it one step longer. -/
theorem Knows.meet_new {chain : Chain} (knows : search.Knows chain) {id : PersonId} (new : id ∉ search.met)
    (height : Nat) : (search.meet chain.top height id).Knows ⟨id, chain.top :: chain.below⟩ := by
  have apart : id ∉ chain.top :: chain.below := fun passed => new (knows.met id passed)
  rw [PointerSearch.meet, if_neg new]
  refine ⟨⟨?_, knows.down.insert apart chain.top⟩, ?_⟩
  · rw [IdMap.get?_insert, if_pos rfl]
  · intro other passed
    cases List.mem_cons.mp passed with
    | inl same => simp [same]
    | inr before => exact List.mem_cons_of_mem id (knows.met other before)

/-- Where the tops of some chains stand in the queue. -/
def places (chains : List Chain) (height : Nat) : List (PersonId × Nat) :=
  chains.map fun chain => (chain.top, height)

/-- The first of some chains stands first. -/
theorem places_cons (chain : Chain) (rest : List Chain) (height : Nat) :
    places (chain :: rest) height = (chain.top, height) :: places rest height :=
  rfl

/-- Chains that come later stand later. -/
theorem places_append (first second : List Chain) (height : Nat) :
    places (first ++ second) height = places first height ++ places second height :=
  List.map_append ..

/-- One search comes from another by chains that have been added at the end of the queue. -/
structure Adds (search : PointerSearch) (kept : List Chain) (height : Nat) (after : PointerSearch) : Prop where
  queue : after.queue = search.queue ++ places kept height
  met : ∀ id, id ∈ kept.map Chain.top ++ search.met ↔ id ∈ after.met
  new : ∀ chain ∈ kept, after.Knows chain
  known : ∀ chain, search.Knows chain → after.Knows chain

/-- Nothing may have been added. -/
theorem Adds.refl (search : PointerSearch) (height : Nat) : search.Adds [] height search := by
  refine ⟨by simp [places], by simp, by simp, fun chain knows => knows⟩

/-- What is added later stands behind what was added before. -/
theorem Adds.trans {first second : List Chain} (one : search.Adds first height between)
    (other : between.Adds second height after) : search.Adds (first ++ second) height after := by
  refine ⟨?_, fun id => ?_, fun chain member => ?_, fun chain knows => other.known chain (one.known chain knows)⟩
  · rw [other.queue, one.queue, places_append, List.append_assoc]
  · rw [← other.met id, List.map_append, List.mem_append, List.mem_append, List.mem_append, ← one.met id,
      List.mem_append]
    tauto
  · cases List.mem_append.mp member with
    | inl before => exact other.known chain (one.new chain before)
    | inr last => exact other.new chain last

/-- The people who wait in the queue do not matter to what is added behind them. -/
theorem Adds.withQueue {kept : List Chain} (adds : search.Adds kept height after)
    (queue : List (PersonId × Nat)) :
    Adds { search with queue := queue } kept height { after with queue := queue ++ places kept height } :=
  ⟨rfl, adds.met, fun chain member => (knows_withQueue_iff _).mpr (adds.new chain member),
    fun chain knows => (knows_withQueue_iff _).mpr (adds.known chain ((knows_withQueue_iff _).mp knows))⟩

/-- Meeting a person adds the chain to that person, if it is kept. -/
theorem Knows.adds_meet {chain : Chain} (knows : search.Knows chain) (id : PersonId) (height : Nat) :
    search.Adds (keepNew search.met [⟨id, chain.top :: chain.below⟩]) height
      (search.meet chain.top height id) := by
  by_cases seen : id ∈ search.met
  · rw [PointerSearch.meet, if_pos seen, keepNew, if_pos seen]
    exact Adds.refl search height
  · refine ⟨?_, ?_, ?_, fun other known => known.meet chain.top height id⟩
    · simp [PointerSearch.meet, keepNew, seen, places]
    · simp [PointerSearch.meet, keepNew, seen]
    · intro other member
      have same : other = ⟨id, chain.top :: chain.below⟩ := by simpa [keepNew, seen] using member
      rw [same]
      exact knows.meet_new seen height

/-- Meeting the people above the top of a chain adds the chains to those who are new. -/
theorem Knows.adds_foldl_meet {chain : Chain} (knows : search.Knows chain) (ids : List PersonId) (height : Nat) :
    search.Adds (keepNew search.met (ids.map fun id => ⟨id, chain.top :: chain.below⟩)) height
      (ids.foldl (PointerSearch.meet chain.top height) search) := by
  -- Whoever has been added counts as met when the others are met.
  induction ids generalizing search with
  | nil => exact Adds.refl search height
  | cons id rest ih =>
    have first := knows.adds_meet id height
    have others := ih (first.known chain knows)
    rw [← keepNew_congr first.met] at others
    rw [List.map_cons, List.foldl_cons, ← List.singleton_append, keepNew_append]
    exact first.trans others

/-- When the people above the top of a known chain are met, the chains one step above it that are new are added behind
those who wait. -/
theorem Knows.adds_extend {chain : Chain} (knows : search.Knows chain) (above : PersonId → List PersonId)
    (waiting : List (PersonId × Nat)) (height : Nat) :
    Adds { search with queue := waiting } (keepNew search.met (chain.extend above)) height
      ((above chain.top).foldl (PointerSearch.meet chain.top height) { search with queue := waiting }) :=
  ((knows_withQueue_iff waiting).mpr knows).adds_foldl_meet (above chain.top) height

end PointerSearch

namespace PointerWalk

open PointerSearch

/-- A walk ends, and answers with a chain or with none. -/
def Answers (above : PersonId → List PersonId) (ancestor : PersonId) (maxDepth : Nat) (walk : PointerWalk)
    (path : Option (List PersonId)) : Prop :=
  -- Some number of turns is enough.
  ∃ count, walk.turns above ancestor maxDepth count = .ended path

/-- Before the greatest depth, whoever is taken and is not the ancestor has the people above met. -/
theorem turn_of_lt {current : PersonId} {rest : List (PersonId × Nat)}
    (queue : search.queue = (current, height) :: rest) (other : current ≠ ancestor) (shallow : height < maxDepth) :
    turn above ancestor maxDepth (.up search) =
      .up ((above current).foldl (meet current (height + 1)) { search with queue := rest }) := by
  simp only [turn, queue, if_neg other, if_neg (Nat.not_le.mpr shallow)]

/-- What a walk answers after a turn, it answers. -/
theorem Answers.of_turn {walk : PointerWalk} {path : Option (List PersonId)}
    (later : Answers above ancestor maxDepth (walk.turn above ancestor maxDepth) path) :
    Answers above ancestor maxDepth walk path := by
  obtain ⟨count, ended⟩ := later
  exact ⟨count + 1, ended⟩

/-- The way down ends at the start, and the answer is read from there. -/
theorem answers_down {pointers : IdMap PersonId} {current : PersonId} {below : List PersonId}
    (down : PointsDown pointers current below) (passed : List PersonId) :
    Answers above ancestor maxDepth (.down pointers passed current) (some (passed ++ below).reverse) := by
  -- Every pointer is followed in one turn.
  induction below generalizing current passed with
  | nil =>
    refine ⟨1, ?_⟩
    rw [PointsDown] at down
    simp [turns, turn, down]
  | cons next rest ih =>
    obtain ⟨points, further⟩ := down
    refine .of_turn ?_
    simp only [turn, points]
    simpa using ih further (passed ++ [next])

/-- The ancestor at the head of the queue is answered by the chain that leads there. -/
theorem answers_reached {chain : Chain} {rest : List (PersonId × Nat)}
    (queue : search.queue = (chain.top, height) :: rest) (reached : chain.top = ancestor)
    (knows : search.Knows chain) :
    Answers above ancestor maxDepth (.up search) (some chain.fromBottom) := by
  refine .of_turn ?_
  simp only [turn, queue, if_pos reached]
  exact answers_down knows.down [chain.top]

/-- At the greatest depth nobody is met, and one of those who wait may still be the ancestor. -/
theorem answers_deepest (deep : maxDepth ≤ height) {level : List Chain}
    (queue : search.queue = places level height) (knows : ∀ chain ∈ level, search.Knows chain) :
    Answers above ancestor maxDepth (.up search)
      ((level.find? fun chain => chain.top = ancestor).map Chain.fromBottom) := by
  induction level generalizing search with
  | nil =>
    refine ⟨1, ?_⟩
    simp [turns, turn, queue, places]
  | cons chain rest ih =>
    by_cases reached : chain.top = ancestor
    · rw [List.find?_cons_of_pos (by simpa using reached)]
      exact answers_reached queue reached (knows chain (by simp))
    · rw [List.find?_cons_of_neg (by simpa using reached)]
      refine .of_turn ?_
      simp only [turn, queue, places, List.map_cons, if_neg reached, if_pos deep]
      exact ih rfl fun other member => (knows_withQueue_iff _).mpr (knows other (by simp [member]))

/-- Before the greatest depth, a level is answered by its chain to the ancestor or else by what comes after it: the
chains one step above it that are new. -/
theorem answers_level (shallow : height < maxDepth) {level next : List Chain}
    (queue : search.queue = places level height ++ places next (height + 1))
    (knows : ∀ chain ∈ level, search.Knows chain) {later : Option (List PersonId)}
    (goesOn : ∀ after, Adds { search with queue := places next (height + 1) }
        (keepNew search.met (level.flatMap (Chain.extend above))) (height + 1) after →
      Answers above ancestor maxDepth (.up after) later) :
    Answers above ancestor maxDepth (.up search)
      (((level.find? fun chain => chain.top = ancestor).map Chain.fromBottom).or later) := by
  -- One person of the level is taken after the other, and the new chains gather at the end of the queue.
  induction level generalizing search next with
  | nil =>
    have same : places next (height + 1) = search.queue := by simpa [places] using queue.symm
    rw [same] at goesOn
    exact goesOn search (Adds.refl search (height + 1))
  | cons chain rest ih =>
    by_cases reached : chain.top = ancestor
    · rw [List.find?_cons_of_pos (by simpa using reached)]
      exact answers_reached queue reached (knows chain (by simp))
    · rw [List.find?_cons_of_neg (by simpa using reached)]
      refine .of_turn ?_
      rw [turn_of_lt (queue.trans (by rw [places_cons, List.cons_append])) reached shallow]
      -- The people above the one who is taken are met, and what the rest of the level adds comes after them.
      have met := (knows chain (by simp)).adds_extend above (places rest height ++ places next (height + 1))
        (height + 1)
      revert met
      generalize (above chain.top).foldl _ _ = between
      intro met
      have sameMet : ∀ id, id ∈ (keepNew search.met (chain.extend above)).map Chain.top ++ search.met ↔
        id ∈ between.met := met.met
      refine @ih between (next ++ keepNew search.met (chain.extend above)) ?_ ?_ ?_
      · rw [met.queue, places_append, List.append_assoc]
      · intro other member
        exact met.known other ((knows_withQueue_iff _).mpr (knows other (by simp [member])))
      · intro after adds
        refine goesOn after ?_
        have first := met.withQueue (places next (height + 1))
        rw [List.flatMap_cons, keepNew_append, keepNew_congr sameMet]
        rw [places_append] at adds
        exact first.trans adds

/-- Nobody in the queue is no answer. -/
theorem answers_nobody (queue : search.queue = []) : Answers above ancestor maxDepth (.up search) none :=
  ⟨1, by simp [turns, turn, queue]⟩

/-- A round that brings nobody new is the last one. -/
theorem generations_eq_nil {rounds : Nat} {met : List PersonId} {level : List Chain}
    (nobody : keepNew met (level.flatMap (Chain.extend above)) = []) :
    generations above rounds met level = [] := by
  cases rounds with
  | zero => rfl
  | succ rounds => simp [generations, nobody]

/-- A round that brings somebody new lists them first. -/
theorem generations_eq_cons {rounds : Nat} {met : List PersonId} {level : List Chain}
    (somebody : keepNew met (level.flatMap (Chain.extend above)) ≠ []) :
    generations above (rounds + 1) met level =
      keepNew met (level.flatMap (Chain.extend above)) ::
        generations above rounds ((keepNew met (level.flatMap (Chain.extend above))).map Chain.top ++ met)
          (keepNew met (level.flatMap (Chain.extend above))) := by
  simp [generations, somebody]

/-- A level above which nobody is new is answered by its chain to the ancestor, if there is one. -/
theorem answers_last {level : List Chain} (queue : search.queue = places level height)
    (knows : ∀ chain ∈ level, search.Knows chain)
    (nobody : keepNew search.met (level.flatMap (Chain.extend above)) = []) :
    Answers above ancestor maxDepth (.up search)
      ((level.find? fun chain => chain.top = ancestor).map Chain.fromBottom) := by
  by_cases deep : maxDepth ≤ height
  · exact answers_deepest deep queue knows
  · have waiting : search.queue = places level height ++ places [] (height + 1) := by
      simp [queue, places]
    rw [← @Option.or_none _ ((level.find? _).map _)]
    refine answers_level (Nat.lt_of_not_le deep) waiting knows ?_
    intro after adds
    -- The queue of the level is all there was.
    have empty : after.queue = [] := by
      rw [adds.queue, nobody]
      rfl
    exact answers_nobody empty

/-- Where there are rounds enough, a search at one level is answered by the first chain to the ancestor in this level
and in those above it, as far as the greatest depth. -/
theorem answers_generations {rounds : Nat} {met : List PersonId} {level : List Chain}
    (queue : search.queue = places level height) (knows : ∀ chain ∈ level, search.Knows chain)
    (sameMet : ∀ id, id ∈ search.met ↔ id ∈ met)
    (enough : (generations above (rounds + 1) met level).length ≤ rounds) :
    Answers above ancestor maxDepth (.up search)
      (((level ++ ((generations above rounds met level).take (maxDepth - height)).flatten).find? fun chain =>
        chain.top = ancestor).map Chain.fromBottom) := by
  induction rounds generalizing search met level height with
  | zero =>
    -- Somebody new would be listed, and there are no rounds for that.
    have nobody : keepNew met (level.flatMap (Chain.extend above)) = [] := by
      refine Classical.byContradiction fun somebody => ?_
      rw [generations_eq_cons somebody] at enough
      simp at enough
    rw [← keepNew_congr sameMet] at nobody
    simpa [generations] using answers_last queue knows nobody
  | succ rounds ih =>
    by_cases nobody : keepNew met (level.flatMap (Chain.extend above)) = []
    · rw [generations_eq_nil nobody]
      rw [← keepNew_congr sameMet] at nobody
      simpa using answers_last queue knows nobody
    by_cases deep : maxDepth ≤ height
    · rw [Nat.sub_eq_zero_of_le deep, List.take_zero, List.flatten_nil, List.append_nil]
      exact answers_deepest deep queue knows
    -- The level is followed by the next one, for which the rounds that are left are enough.
    have waiting : search.queue = places level height ++ places [] (height + 1) := by
      simp [queue, places]
    rw [List.find?_append, Option.map_or]
    refine answers_level (Nat.lt_of_not_le deep) waiting knows ?_
    intro after adds
    rw [keepNew_congr sameMet] at adds
    rw [generations_eq_cons nobody] at enough ⊢
    have further : maxDepth - height = maxDepth - (height + 1) + 1 := by omega
    rw [further, List.take_succ_cons, List.flatten_cons]
    refine ih adds.queue adds.new ?_ (Nat.le_of_succ_le_succ enough)
    intro id
    rw [← adds.met id, List.mem_append, List.mem_append, ← sameMet id]

end PointerWalk

namespace KinTable

/-- The walk with pointers ends, and it answers with the chain of the table. -/
theorem answers_ancestryPath (table : KinTable) (descendant ancestor : PersonId) (maxDepth : Nat) :
    PointerWalk.Answers table.parents ancestor maxDepth (.up (.startingAt descendant))
      (table.ancestryPath descendant ancestor maxDepth) := by
  -- The start is the only chain known at first, and there are rounds for everybody who can be named.
  have named : ∀ low, ∀ up ∈ table.parents low, up ∈ table.namedParents := fun _ _ => table.mem_namedParents
  have count := table.parentCount_eq
  have knows : ∀ chain ∈ [Chain.single descendant],
      (PointerSearch.startingAt descendant).Knows chain := by
    intro chain listed
    rw [List.mem_singleton.mp listed]
    exact ⟨rfl, fun id passed => passed⟩
  have enough : (generationsFrom table.parents (table.parentCount + 1) descendant).length ≤
      table.parentCount := by
    rw [count]
    exact length_generationsFrom_le named (Nat.le_succ _)
  have answered : PointerWalk.Answers table.parents ancestor maxDepth (.up (.startingAt descendant))
      ((([Chain.single descendant] ++ ((table.generationsAbove descendant).take maxDepth).flatten).find?
        fun chain => chain.top = ancestor).map Chain.fromBottom) :=
    PointerWalk.answers_generations rfl knows (fun _ => Iff.rfl) enough
  rw [List.singleton_append, List.find?_cons] at answered
  rw [KinTable.ancestryPath]
  by_cases same : descendant = ancestor
  · simpa [Chain.single, Chain.fromBottom, same] using answered
  · simpa only [Chain.single, same, decide_false, if_false] using answered

/-- In the table of some records, the chain that is shown is the least of the shortest, if these are short enough. -/
theorem ancestryPath_ofRecords_iff (people : List Person) (edges : List ParentEdge) (low top : PersonId)
    (maxDepth : Nat) (path : List PersonId) :
    (ofRecords people edges).ancestryPath low top maxDepth = some path ↔
      IsLeastPath (KeptLink people edges) low top path ∧ path.length ≤ maxDepth + 1 := by
  have increasing := (describes_ofRecords people edges).parentsIncreasing
  rw [ancestryPath_eq_some_iff increasing, parents_ofRecords]

/-- Up to everybody who stands above a person by kept links there is a least one of the shortest lists. -/
theorem exists_isLeastPath_ofRecords {people : List Person} {edges : List ParentEdge} {low top : PersonId}
    {distance : Nat} (far : IsDistance (KeptLink people edges) low top distance) :
    ∃ path, IsLeastPath (KeptLink people edges) low top path ∧ path.length = distance + 1 := by
  have increasing := (describes_ofRecords people edges).parentsIncreasing
  rw [← parents_ofRecords] at far ⊢
  exact exists_isLeastPath increasing far

/-- What the search for a chain in the table of some records tells of two people: a chain, if there is one of so many
steps at most, and then the shortest one and of several the least. -/
structure TellsLeastPath (people : List Person) (edges : List ParentEdge) (descendant ancestor : PersonId)
    (maxDepth : Nat) : Prop where
  /-- The walk with pointers ends with it. -/
  ends : PointerWalk.Answers (ofRecords people edges).parents ancestor maxDepth
    (.up (.startingAt descendant)) ((ofRecords people edges).ancestryPath descendant ancestor maxDepth)
  isSome_iff : ((ofRecords people edges).ancestryPath descendant ancestor maxDepth).isSome ↔
    descendant = ancestor ∨
      ∃ distance, IsDistance (KeptLink people edges) descendant ancestor distance ∧ distance ≤ maxDepth
  path : ∀ path, (ofRecords people edges).ancestryPath descendant ancestor maxDepth = some path →
    IsLeastPath (KeptLink people edges) descendant ancestor path ∧ path.Nodup ∧
      ∃ distance, IsDistance (KeptLink people edges) descendant ancestor distance ∧
        path.length = distance + 1
  alone : descendant = ancestor →
    (ofRecords people edges).ancestryPath descendant ancestor maxDepth = some [descendant]
  /-- The other search measures the same number of steps. -/
  measured : descendant ≠ ancestor → ∀ distance,
    ((ofRecords people edges).ancestorDistances descendant).get? ancestor = some distance ↔
      IsDistance (KeptLink people edges) descendant ancestor distance

/-- The search for a chain is exact on the table of any records, cyclic ones too: it ends, it answers when a chain is
short enough, and with the least of the shortest chains. -/
theorem ancestryPath_exact (people : List Person) (edges : List ParentEdge)
    (descendant ancestor : PersonId) (maxDepth : Nat) :
    TellsLeastPath people edges descendant ancestor maxDepth := by
  have told := ancestryPath_ofRecords_iff people edges descendant ancestor maxDepth
  refine ⟨answers_ancestryPath _ descendant ancestor maxDepth, ⟨?_, ?_⟩, ?_, fun same => if_pos same, ?_⟩
  · intro found
    obtain ⟨path, located⟩ := Option.isSome_iff_exists.mp found
    obtain ⟨least, short⟩ := (told path).mp located
    obtain ⟨distance, size, far⟩ := least.exists_isDistance
    exact Or.inr ⟨distance, far, by omega⟩
  · -- A person stands at no distance from himself or herself, so one case is left.
    intro near
    obtain ⟨distance, far, short⟩ :
        ∃ distance, IsDistance (KeptLink people edges) descendant ancestor distance ∧ distance ≤ maxDepth := by
      cases near with
      | inl same => exact ⟨0, same ▸ .self descendant, Nat.zero_le maxDepth⟩
      | inr near => exact near
    obtain ⟨path, least, size⟩ := exists_isLeastPath_ofRecords far
    exact Option.isSome_iff_exists.mpr ⟨path, (told path).mpr ⟨least, by omega⟩⟩
  · intro path located
    obtain ⟨least, _⟩ := (told path).mp located
    obtain ⟨distance, size, far⟩ := least.exists_isDistance
    exact ⟨least, least.nodup, distance, far, size⟩
  · intro differ distance
    rw [get?_ancestorDistances, parents_ofRecords, IsAncestorAt, and_iff_right differ.symm]

/-- Around a circle two chains of two steps lead up, and the one through the lesser parent is shown, unless one step is
the most. -/
theorem ancestryPath_exact_around_circle :
    let people : List Person := [⟨⟨"a"⟩, "А", .male, none⟩, ⟨⟨"p"⟩, "П", .male, none⟩,
      ⟨⟨"m"⟩, "М", .female, none⟩, ⟨⟨"t"⟩, "Т", .female, none⟩]
    let edges : List ParentEdge := [⟨⟨"p"⟩, ⟨"a"⟩⟩, ⟨⟨"t"⟩, ⟨"p"⟩⟩, ⟨⟨"m"⟩, ⟨"a"⟩⟩, ⟨⟨"t"⟩, ⟨"m"⟩⟩, ⟨⟨"a"⟩, ⟨"t"⟩⟩]
    (ofRecords people edges).ancestryPath ⟨"a"⟩ ⟨"t"⟩ 2 = some [⟨"a"⟩, ⟨"m"⟩, ⟨"t"⟩] ∧
      IsLeastPath (KeptLink people edges) ⟨"a"⟩ ⟨"t"⟩ [⟨"a"⟩, ⟨"m"⟩, ⟨"t"⟩] ∧
      IsDistance (KeptLink people edges) ⟨"a"⟩ ⟨"t"⟩ 2 ∧
      (ofRecords people edges).ancestryPath ⟨"a"⟩ ⟨"t"⟩ 1 = none := by
  intro people edges
  have found : (ofRecords people edges).ancestryPath ⟨"a"⟩ ⟨"t"⟩ 2 = some [⟨"a"⟩, ⟨"m"⟩, ⟨"t"⟩] := by decide
  have told := ancestryPath_exact people edges ⟨"a"⟩ ⟨"t"⟩ 2
  have far := (told.measured (by decide) 2).mp (by decide)
  exact ⟨found, (told.path _ found).1, far, by decide⟩

end KinTable

end Kindred
