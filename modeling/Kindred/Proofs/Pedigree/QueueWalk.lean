import Kindred.Pedigree.QueueWalk
import Kindred.Proofs.Pedigree.Ascent
import Kindred.Proofs.Pedigree.Table

/-! The walk with a queue ends, and it has written down the least number of steps up to every ancestor. -/

namespace Kindred

namespace QueueWalk

variable {above : PersonId → List PersonId} {start : PersonId}

/-- What holds of a walk between two turns. Those in the queue stand in the order of their distances, which differ
by one at most, and the parents of all others who have been met have been met too. -/
structure Sound (above : PersonId → List PersonId) (start : PersonId) (walk : QueueWalk) : Prop where
  started : start ∈ walk.met
  queued : ∀ id distance, (id, distance) ∈ walk.queue →
    IsDistance (fun up low => up ∈ above low) start id distance
  ordered : walk.queue.Pairwise fun one other => one.2 ≤ other.2
  level : ∃ height, ∀ entry ∈ walk.queue, height ≤ entry.2 ∧ entry.2 ≤ height + 1
  closed : ∀ id ∈ walk.met, id ∉ walk.queue.map Prod.fst → ∀ up ∈ above id, up ∈ walk.met
  written : ∀ id distance, walk.distances.get? id = some distance ↔
    id ∈ walk.met ∧ IsAncestorAt (fun up low => up ∈ above low) start id distance

/-- What holds in the middle of a turn, while a person's parents are met: only those who are left of them may be
missing among the people met. -/
structure SoundBut (above : PersonId → List PersonId) (start current : PersonId) (height : Nat)
    (left : List PersonId) (walk : QueueWalk) : Prop where
  started : start ∈ walk.met
  queued : ∀ id distance, (id, distance) ∈ walk.queue →
    IsDistance (fun up low => up ∈ above low) start id distance
  ordered : walk.queue.Pairwise fun one other => one.2 ≤ other.2
  level : ∀ entry ∈ walk.queue, height ≤ entry.2 ∧ entry.2 ≤ height + 1
  nearer : ∀ id distance, distance ≤ height →
    IsDistance (fun up low => up ∈ above low) start id distance → id ∈ walk.met
  closed : ∀ id ∈ walk.met, id ∉ walk.queue.map Prod.fst → ∀ up ∈ above id,
    up ∈ walk.met ∨ (id = current ∧ up ∈ left)
  written : ∀ id distance, walk.distances.get? id = some distance ↔
    id ∈ walk.met ∧ IsAncestorAt (fun up low => up ∈ above low) start id distance

/-- At the beginning nothing is wrong. -/
theorem sound_startingAt (above : PersonId → List PersonId) (start : PersonId) :
    (startingAt start).Sound above start := by
  refine ⟨by simp [startingAt], fun id distance inQueue => ?_, by simp [startingAt],
    ⟨0, by simp [startingAt]⟩, by simp [startingAt], fun id distance => ?_⟩
  · cases List.mem_singleton.mp inQueue
    exact IsDistance.self start
  · -- Nothing is written down, and the start is no ancestor.
    refine iff_of_false (by simp [startingAt, IdMap.empty, IdMap.get?]) ?_
    rintro ⟨met, differ, _⟩
    exact differ (List.mem_singleton.mp met)

/-- Whoever stands no farther than everybody in the queue has been met. -/
theorem Sound.met_of_isDistance {walk : QueueWalk} (sound : walk.Sound above start) {id : PersonId}
    {distance : Nat} (far : ∀ entry ∈ walk.queue, distance ≤ entry.2)
    (stands : IsDistance (fun up low => up ∈ above low) start id distance) : id ∈ walk.met := by
  -- The people along a shortest chain have left the queue, so each has brought in the next one.
  induction distance generalizing id with
  | zero => exact IsDistance.zero_iff.mp stands ▸ sound.started
  | succ distance ih =>
    obtain ⟨⟨middle, below, up⟩, _⟩ := IsDistance.succ_iff.mp stands
    have met := ih (fun entry inQueue => Nat.le_of_succ_le (far entry inQueue)) below
    refine sound.closed middle met (fun waiting => ?_) id up
    obtain ⟨entry, inQueue, rfl⟩ := List.mem_map.mp waiting
    have same := (sound.queued entry.1 entry.2 inQueue).unique below
    have farther := far entry inQueue
    omega

/-- Once the first person has been taken from the queue, all parents of that person are left to be met. -/
theorem Sound.take {walk : QueueWalk} (sound : walk.Sound above start) {current : PersonId}
    {height : Nat} {rest : List (PersonId × Nat)} (queue : walk.queue = (current, height) :: rest) :
    SoundBut above start current height (above current) { walk with queue := rest } := by
  have ordered := sound.ordered
  have queued := sound.queued
  rw [queue] at ordered queued
  obtain ⟨least, ordered⟩ := List.pairwise_cons.mp ordered
  have far : ∀ entry ∈ walk.queue, height ≤ entry.2 := by
    rw [queue]
    exact List.forall_mem_cons.mpr ⟨Nat.le_refl height, least⟩
  refine ⟨sound.started, fun id distance waiting => queued id distance (List.mem_cons_of_mem _ waiting),
    ordered, fun entry waiting => ⟨least entry waiting, ?_⟩, fun id distance near stands => ?_,
    fun id met gone up isAbove => ?_, sound.written⟩
  · -- All of the queue is within one level of the first person.
    obtain ⟨base, within⟩ := sound.level
    rw [queue] at within
    have first := within (current, height) (by simp)
    have other := within entry (by simp [waiting])
    omega
  · exact sound.met_of_isDistance (fun entry waiting => Nat.le_trans near (far entry waiting)) stands
  · by_cases same : id = current
    · exact Or.inr ⟨same, same ▸ isAbove⟩
    · refine Or.inl (sound.closed id met ?_ up isAbove)
      rw [queue, List.map_cons, List.mem_cons, not_or]
      exact ⟨same, gone⟩

/-- A parent is met one generation above the person. -/
theorem SoundBut.meet {walk : QueueWalk} {current up : PersonId} {height : Nat} {left : List PersonId}
    (sound : SoundBut above start current height (up :: left) walk)
    (here : IsDistance (fun up low => up ∈ above low) start current height) (isAbove : up ∈ above current) :
    SoundBut above start current height left (walk.meet (height + 1) up) := by
  rw [QueueWalk.meet]
  split
  · -- Somebody who has been met is not missing any more.
    rename_i known
    refine ⟨sound.started, sound.queued, sound.ordered, sound.level, sound.nearer,
      fun id met gone other isParent => ?_, sound.written⟩
    rcases sound.closed id met gone other isParent with found | ⟨same, waiting⟩
    · exact Or.inl found
    · rcases List.mem_cons.mp waiting with first | later
      · exact Or.inl (first ▸ known)
      · exact Or.inr ⟨same, later⟩
  · rename_i new
    -- Nobody at a smaller distance is new, so this is the least number of steps.
    have stands : IsDistance (fun up low => up ∈ above low) start up (height + 1) :=
      IsDistance.succ_iff.mpr ⟨⟨current, here, isAbove⟩,
        fun distance near stands => new (sound.nearer up distance near stands)⟩
    have differ : up ≠ start := fun same => new (same ▸ sound.started)
    refine ⟨by simp [sound.started], fun id distance inQueue => ?_, ?_, fun entry inQueue => ?_,
      fun id distance near other => List.mem_cons_of_mem _ (sound.nearer id distance near other),
      fun id met gone other isParent => ?_, fun id distance => ?_⟩
    · rcases List.mem_append.mp inQueue with before | last
      · exact sound.queued id distance before
      · cases List.mem_singleton.mp last
        exact stands
    · refine List.pairwise_append.mpr ⟨sound.ordered, List.pairwise_singleton .., ?_⟩
      intro entry before other last
      rw [List.mem_singleton.mp last]
      exact (sound.level entry before).2
    · rcases List.mem_append.mp inQueue with before | last
      · exact sound.level entry before
      · rw [List.mem_singleton.mp last]
        exact ⟨Nat.le_succ height, Nat.le_refl _⟩
    · rw [List.map_append, List.mem_append, not_or] at gone
      rcases List.mem_cons.mp met with same | before
      · simp [same] at gone
      · rcases sound.closed id before gone.1 other isParent with found | ⟨same, waiting⟩
        · exact Or.inl (List.mem_cons_of_mem _ found)
        · rcases List.mem_cons.mp waiting with first | later
          · exact Or.inl (by simp [first])
          · exact Or.inr ⟨same, later⟩
    · -- The distance of the new one is written down, and nothing else changes.
      rw [IdMap.get?_insert, List.mem_cons]
      by_cases same : id = up
      · subst same
        rw [if_pos rfl, Option.some.injEq]
        constructor
        · rintro rfl
          exact ⟨Or.inl rfl, differ, stands⟩
        · rintro ⟨_, _, other⟩
          exact stands.unique other
      · rw [if_neg same, sound.written, or_iff_right same]

/-- All parents of a person are met one generation above that person. -/
theorem SoundBut.foldl_meet {walk : QueueWalk} {current : PersonId} {height : Nat} {left : List PersonId}
    (sound : SoundBut above start current height left walk)
    (here : IsDistance (fun up low => up ∈ above low) start current height)
    (parents : ∀ up ∈ left, up ∈ above current) :
    SoundBut above start current height [] (left.foldl (QueueWalk.meet (height + 1)) walk) := by
  induction left generalizing walk with
  | nil => exact sound
  | cons up rest ih =>
    obtain ⟨isAbove, others⟩ := List.forall_mem_cons.mp parents
    exact ih (sound.meet here isAbove) others

/-- When no parent is left to be met, the turn is over. -/
theorem SoundBut.sound {walk : QueueWalk} {current : PersonId} {height : Nat}
    (sound : SoundBut above start current height [] walk) : walk.Sound above start := by
  refine ⟨sound.started, sound.queued, sound.ordered, ⟨height, sound.level⟩,
    fun id met gone up isAbove => ?_, sound.written⟩
  exact (sound.closed id met gone up isAbove).resolve_right (by simp)

/-- A turn keeps a walk sound. -/
theorem Sound.turn {walk : QueueWalk} (sound : walk.Sound above start) :
    (walk.turn above).Sound above start := by
  rw [QueueWalk.turn]
  split
  · exact sound
  · rename_i current height rest queue
    have here := sound.queued current height (by simp [queue])
    exact ((sound.take queue).foldl_meet here fun _ isAbove => isAbove).sound

/-- Any number of turns keeps a walk sound. -/
theorem Sound.turns {walk : QueueWalk} (sound : walk.Sound above start) (count : Nat) :
    (walk.turns above count).Sound above start := by
  induction count generalizing walk with
  | zero => exact sound
  | succ count ih => exact ih sound.turn

/-- How many turns a walk can still take: one for each person in the queue and one for everybody who may still be
met. -/
def remaining (everybody : List PersonId) (walk : QueueWalk) : Nat :=
  walk.queue.length + (everybody.filter fun id => id ∉ walk.met).length

/-- A walk at its beginning takes at most one turn for each person who can be named, and one for the start. -/
theorem remaining_startingAt_le (everybody : List PersonId) (start : PersonId) :
    (startingAt start).remaining everybody ≤ everybody.length + 1 := by
  rw [remaining, Nat.add_comm]
  exact Nat.add_le_add_right (List.length_filter_le ..) 1

/-- Meeting somebody leaves no more turns to take than before. -/
theorem remaining_meet {everybody : List PersonId} (walk : QueueWalk) {id : PersonId}
    (named : id ∈ everybody) (distance : Nat) :
    (walk.meet distance id).remaining everybody ≤ walk.remaining everybody := by
  rw [meet]
  split
  · exact Nat.le_refl _
  · -- The queue has one person more, and of those who have not been met at least one is missing.
    rename_i new
    have fewer : (everybody.filter fun other => other ∉ id :: walk.met).length <
        (everybody.filter fun other => other ∉ walk.met).length := by
      have both : everybody.filter (fun other => other ∉ id :: walk.met) =
          (everybody.filter fun other => other ∉ walk.met).filter fun other => other ≠ id := by
        simp [List.filter_filter, not_or]
      rw [both, List.length_filter_lt_length_iff_exists]
      exact ⟨id, by simp [named, new], by simp⟩
    simp only [remaining, List.length_append, List.length_singleton]
    omega

/-- Meeting a list of people leaves no more turns to take than before. -/
theorem remaining_foldl_meet {everybody : List PersonId} (walk : QueueWalk) {ids : List PersonId}
    (named : ∀ id ∈ ids, id ∈ everybody) (distance : Nat) :
    (ids.foldl (meet distance) walk).remaining everybody ≤ walk.remaining everybody := by
  induction ids generalizing walk with
  | nil => exact Nat.le_refl _
  | cons id rest ih =>
    obtain ⟨here, others⟩ := List.forall_mem_cons.mp named
    exact Nat.le_trans (ih _ others) (remaining_meet walk here distance)

/-- A turn of a walk that has not ended leaves fewer turns to take. -/
theorem remaining_turn {everybody : List PersonId} {walk : QueueWalk}
    (named : ∀ low, ∀ up ∈ above low, up ∈ everybody) (goesOn : walk.queue ≠ []) :
    (walk.turn above).remaining everybody < walk.remaining everybody := by
  rw [turn]
  split
  · contradiction
  · rename_i current distance rest queue
    refine Nat.lt_of_le_of_lt (remaining_foldl_meet _ (named current) (distance + 1)) ?_
    simp only [remaining, queue, List.length_cons]
    omega

/-- A walk ends. -/
theorem exists_turns_queue_eq_nil {everybody : List PersonId}
    (named : ∀ low, ∀ up ∈ above low, up ∈ everybody) (walk : QueueWalk) :
    ∃ count, count ≤ walk.remaining everybody ∧ (walk.turns above count).queue = [] := by
  -- Every turn leaves fewer of them to take.
  induction size : walk.remaining everybody using Nat.strongRecOn generalizing walk with
  | ind size ih =>
    by_cases ended : walk.queue = []
    · exact ⟨0, Nat.zero_le _, ended⟩
    · have fewer := remaining_turn named ended
      obtain ⟨count, bound, done⟩ := ih _ (size ▸ fewer) (walk.turn above) rfl
      exact ⟨count + 1, by omega, done⟩

/-- A walk that has ended has written down exactly the ancestors, each with the distance. -/
theorem Sound.get?_distances {walk : QueueWalk} (sound : walk.Sound above start)
    (ended : walk.queue = []) (id : PersonId) (distance : Nat) :
    walk.distances.get? id = some distance ↔
      IsAncestorAt (fun up low => up ∈ above low) start id distance := by
  rw [sound.written]
  refine and_iff_right_of_imp fun stands => ?_
  exact sound.met_of_isDistance (by simp [ended]) stands.2

end QueueWalk

namespace KinTable

/-- The walk with a queue ends, and what it has written down are the distances of the table. -/
theorem exists_turns_distances (table : KinTable) (start : PersonId) :
    ∃ count, count ≤ table.parentCount + 1 ∧
      ((QueueWalk.startingAt start).turns table.parents count).queue = [] ∧
      ((QueueWalk.startingAt start).turns table.parents count).distances =
        table.ancestorDistances start := by
  -- Only people who stand in some row can be met.
  obtain ⟨count, bound, ended⟩ :=
    QueueWalk.exists_turns_queue_eq_nil (fun _ _ => table.mem_namedParents) (.startingAt start)
  refine ⟨count, ?_, ended, IdMap.eq_of_get?_eq fun id => Option.ext fun distance => ?_⟩
  · rw [table.parentCount_eq]
    exact Nat.le_trans bound (QueueWalk.remaining_startingAt_le table.namedParents start)
  · have sound := (QueueWalk.sound_startingAt table.parents start).turns count
    rw [sound.get?_distances ended, get?_ancestorDistances]

/-- The walk upwards from a person is exact: with a queue it ends, its result gives everybody else the least number
of steps up to them, if there is a chain at all, and the start is none of its ancestors. -/
structure MeasuresExactly (table : KinTable) (start : PersonId) : Prop where
  ends : ∃ count, ((QueueWalk.startingAt start).turns table.parents count).queue = [] ∧
    ((QueueWalk.startingAt start).turns table.parents count).distances = table.ancestorDistances start
  distances : ∀ id distance, (table.ancestorDistances start).get? id = some distance ↔
    id ≠ start ∧ IsDistance (fun up low => up ∈ table.parents low) start id distance
  notOwn : start ∉ (table.ancestorDistances start).keys

/-- Every table measures exactly, whatever its rows name and whether or not chains lead back to their start. -/
theorem measuresExactly (table : KinTable) (start : PersonId) : table.MeasuresExactly start := by
  obtain ⟨count, _, ended, same⟩ := table.exists_turns_distances start
  refine ⟨⟨count, ended, same⟩, table.get?_ancestorDistances start, fun listed => ?_⟩
  obtain ⟨distance, found⟩ := (IdMap.mem_keys_iff _ start).mp listed
  exact ((table.get?_ancestorDistances start start distance).mp found).1 rfl

/-- In the table of some records a distance is positive and smaller than the number of people. -/
theorem distance_lt_of_mem_entries (people : List Person) (edges : List ParentEdge) (start : PersonId)
    {entry : PersonId × Nat} (listed : entry ∈ ((ofRecords people edges).ancestorDistances start).entries) :
    0 < entry.2 ∧ entry.2 < (people.map Person.id).eraseDups.length := by
  obtain ⟨id, distance⟩ := entry
  have found := (IdMap.mem_entries_iff _ id distance).mp listed
  obtain ⟨differ, far⟩ := (get?_ancestorDistances _ start id distance).mp found
  have named : ∀ up low, up ∈ (ofRecords people edges).parents low → KeptLink people edges up low :=
    fun up low => ((describes_ofRecords people edges).parents up low).mp
  -- A chain that leads to somebody else has a first step, so the start is recorded as a child.
  cases distance with
  | zero => exact absurd (IsDistance.zero_iff.mp far).symm differ
  | succ steps =>
    obtain ⟨next, up, _⟩ := far.ascends.first_step
    refine ⟨Nat.succ_pos steps, far.lt_length ?_ fun up low isParent => ?_⟩
    · exact List.mem_eraseDups.mpr (named next start up).childKnown
    · exact List.mem_eraseDups.mpr (named up low isParent).parentKnown

/-- The walk upwards is exact on every table, with cycles and unknown identifiers too, and in the table of some
records every distance lies between one and the number of different people less one. -/
theorem ancestorDistances_exact (start : PersonId) :
    (∀ table : KinTable, table.MeasuresExactly start) ∧
    ∀ people edges, ∀ entry ∈ ((ofRecords people edges).ancestorDistances start).entries,
      1 ≤ entry.2 ∧ entry.2 ≤ (people.map Person.id).eraseDups.length - 1 := by
  refine ⟨fun table => table.measuresExactly start, fun people edges entry listed => ?_⟩
  obtain ⟨positive, less⟩ := distance_lt_of_mem_entries people edges start listed
  exact ⟨positive, Nat.le_sub_one_of_lt less⟩

/-- Around a circle of two people the third one, above both, stands two steps up, and the start at no distance. -/
theorem ancestorDistances_exact_around_circle :
    let people : List Person := [⟨⟨"a"⟩, "А", .male, none⟩, ⟨⟨"b"⟩, "Б", .female, none⟩, ⟨⟨"c"⟩, "В", .male, none⟩]
    let edges : List ParentEdge := [⟨⟨"b"⟩, ⟨"a"⟩⟩, ⟨⟨"a"⟩, ⟨"b"⟩⟩, ⟨⟨"c"⟩, ⟨"b"⟩⟩]
    (ofRecords people edges).MeasuresExactly ⟨"a"⟩ ∧
      (⟨"c"⟩, 2) ∈ ((ofRecords people edges).ancestorDistances ⟨"a"⟩).entries ∧
      1 ≤ 2 ∧ 2 ≤ (people.map Person.id).eraseDups.length - 1 := by
  have measured := ancestorDistances_exact ⟨"a"⟩
  have listed : (⟨"c"⟩, 2) ∈ ((ofRecords
      [⟨⟨"a"⟩, "А", .male, none⟩, ⟨⟨"b"⟩, "Б", .female, none⟩, ⟨⟨"c"⟩, "В", .male, none⟩]
      [⟨⟨"b"⟩, ⟨"a"⟩⟩, ⟨⟨"a"⟩, ⟨"b"⟩⟩, ⟨⟨"c"⟩, ⟨"b"⟩⟩]).ancestorDistances ⟨"a"⟩).entries := by decide
  exact ⟨measured.1 _, listed, measured.2 _ _ _ listed⟩

end KinTable

end Kindred
