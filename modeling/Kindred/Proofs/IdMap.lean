import Kindred.IdMap

/-! What a map from identifiers holds after it has been built, written or changed, and what is left of a list of
labelled entries when one label is struck out. -/

namespace Kindred

/-- Of two identifiers at most one precedes the other. -/
instance : Std.Asymm fun a b : PersonId => a < b where
  asymm _ _ below above := PersonId.lt_irrefl _ (PersonId.lt_trans below above)

section Increasing

variable {α : Type} [LT α] [Std.Asymm fun a b : α => a < b]

/-- In an increasing list no member stands twice. -/
theorem nodup_of_increasing {members : List α} (increasing : members.Pairwise (· < ·)) : members.Nodup := by
  -- A repeated member would precede itself.
  refine increasing.imp ?_
  intro first second below equal
  exact Std.Asymm.asymm (r := fun a b : α => a < b) second second (equal ▸ below) (equal ▸ below)

/-- Two increasing lists of the same members are the same list. -/
theorem eq_of_increasing_of_mem {first second : List α}
    (firstIncreasing : first.Pairwise (· < ·)) (secondIncreasing : second.Pairwise (· < ·))
    (same : ∀ member, member ∈ first ↔ member ∈ second) : first = second := by
  -- One is the other in some order, and only one order is increasing.
  have reordered : first.Perm second :=
    (List.perm_ext_iff_of_nodup (nodup_of_increasing firstIncreasing)
      (nodup_of_increasing secondIncreasing)).mpr same
  refine reordered.eq_of_pairwise ?_ firstIncreasing secondIncreasing
  intro one other _ _ below above
  exact absurd above (Std.Asymm.asymm one other below)

end Increasing

/-- In an increasing list a search stops at the least member that it accepts. -/
theorem find?_eq_some_iff_least {accepts : PersonId → Bool} {ids : List PersonId}
    (increasing : ids.Pairwise (· < ·)) (id : PersonId) :
    ids.find? accepts = some id ↔
      id ∈ ids ∧ accepts id ∧ ∀ other ∈ ids, accepts other → other = id ∨ id < other := by
  constructor
  · -- Those before the one that is found are refused, and those after it are above it.
    intro found
    obtain ⟨fits, before, after, rfl, refused⟩ := List.find?_eq_some_iff_append.mp found
    obtain ⟨_, fromHere, _⟩ := List.pairwise_append.mp increasing
    refine ⟨by simp, fits, fun other member accepted => ?_⟩
    rcases List.mem_append.mp member with early | later
    · have notAccepted := refused other early
      simp [accepted] at notAccepted
    · rcases List.mem_cons.mp later with same | later
      · exact Or.inl same
      · exact Or.inr ((List.pairwise_cons.mp fromHere).1 other later)
  · -- Those before the least one that is accepted are below it, so they are refused.
    rintro ⟨member, fits, least⟩
    obtain ⟨before, after, rfl⟩ := List.append_of_mem member
    obtain ⟨_, _, ordered⟩ := List.pairwise_append.mp increasing
    refine List.find?_eq_some_iff_append.mpr ⟨fits, before, after, rfl, fun other early => ?_⟩
    have below : other < id := ordered other early id (by simp)
    cases accepted : accepts other with
    | false => rfl
    | true =>
      rcases least other (by simp [early]) accepted with same | above
      · exact absurd (same ▸ below) (PersonId.lt_irrefl id)
      · exact absurd (PersonId.lt_trans below above) (PersonId.lt_irrefl other)

namespace IdMap

variable {α : Type}

/-- A written value is found under its identifier, and all other identifiers keep what they had. -/
theorem find_insertEntry (id other : PersonId) (value : α) (entries : List (PersonId × α)) :
    (insertEntry id value entries).find? (fun entry => entry.1 = other) =
      if other = id then some (id, value) else entries.find? (fun entry => entry.1 = other) := by
  -- The write stops at the first identifier that is not smaller, and passes over all before it.
  induction entries with
  | nil => by_cases same : other = id <;> simp [insertEntry, same, Ne.symm, eq_comm]
  | cons entry rest ih =>
    obtain ⟨key, held⟩ := entry
    simp only [insertEntry]
    split
    · by_cases same : other = id
      · simp [same]
      · simp [same, Ne.symm same]
    · split
      · rename_i equal
        subst equal
        by_cases same : other = id
        · simp [same]
        · simp [same, Ne.symm same]
      · rename_i different
        by_cases here : key = other
        · have away : other ≠ id := fun equal => different (equal ▸ here).symm
          simp [here, away]
        · simp [here, ih]

/-- The lookup after a write. -/
theorem get?_insert (map : IdMap α) (id other : PersonId) (value : α) :
    (map.insert id value).get? other = if other = id then some value else map.get? other := by
  -- The search over the entries is the one that the write was described for.
  simp only [get?, insert, find_insertEntry]
  split <;> rfl

/-- The lookup after a change. -/
theorem get?_modify (map : IdMap α) (id other : PersonId) (change : α → α) :
    (map.modify id change).get? other =
      if other = id then (map.get? other).map change else map.get? other := by
  -- A change keeps every key, so the search meets the same entry.
  simp only [get?, modify, List.find?_map, Option.map_map, Function.comp_def]
  cases found : map.entries.find? (fun entry => entry.1 = other) with
  | none => simp
  | some entry =>
    have named : entry.1 = other := by simpa using List.find?_some found
    by_cases same : other = id <;> simp [named, same]

/-- The lookup after all values have been changed. -/
theorem get?_mapValues {β : Type} (map : IdMap α) (change : α → β) (id : PersonId) :
    (map.mapValues change).get? id = (map.get? id).map change := by
  -- The keys stay, so the search meets the entry of the same place.
  simp [get?, mapValues, List.find?_map, Function.comp_def]

/-- An identifier has a value when the lookup finds one. -/
theorem contains_eq_isSome (map : IdMap α) (id : PersonId) :
    map.contains id = (map.get? id).isSome := by
  -- Both look for the first entry of the identifier.
  rw [Bool.eq_iff_iff, get?, Option.isSome_map, List.find?_isSome, contains, List.any_eq_true]

/-- An entry of increasing entries is the one that a search for its key meets. -/
theorem find_eq_of_mem {id : PersonId} {value : α} {entries : List (PersonId × α)}
    (increasing : (entries.map Prod.fst).Pairwise (· < ·)) (member : (id, value) ∈ entries) :
    entries.find? (fun entry => entry.1 = id) = some (id, value) := by
  -- Keys increase, so an earlier entry has a smaller key and is passed over.
  induction entries with
  | nil => simp at member
  | cons entry rest ih =>
    obtain ⟨above, tail⟩ := List.pairwise_cons.mp increasing
    rcases List.mem_cons.mp member with same | member
    · simp [← same]
    · have smaller : entry.1 < id := above id (List.mem_map.mpr ⟨(id, value), member, rfl⟩)
      have different : entry.1 ≠ id := fun equal => PersonId.lt_irrefl id (equal ▸ smaller)
      simpa [different] using ih tail member

/-- An entry stands in the map exactly when the lookup gives its value. -/
theorem mem_entries_iff (map : IdMap α) (id : PersonId) (value : α) :
    (id, value) ∈ map.entries ↔ map.get? id = some value := by
  -- One direction is the search above, the other reads off what a search has found.
  constructor
  · intro member
    simp [get?, find_eq_of_mem map.increasing member]
  · intro found
    obtain ⟨entry, located, same⟩ := Option.map_eq_some_iff.mp found
    have named : entry.1 = id := by simpa using List.find?_some located
    have member := List.mem_of_find?_eq_some located
    rw [← named, ← same]
    exact member

/-- The identifiers of a map are those under which a value is found. -/
theorem mem_keys_iff (map : IdMap α) (id : PersonId) :
    id ∈ map.keys ↔ ∃ value, map.get? id = some value := by
  simp [keys, ← mem_entries_iff]

/-- What is made of the identifiers in two maps is made of the two values that are found. -/
theorem mem_filterMap_get?_iff {β γ : Type} (first : IdMap α) (second : IdMap β) (make : PersonId → α → β → γ)
    (made : γ) :
    (made ∈ first.entries.filterMap fun entry => (second.get? entry.1).map (make entry.1 entry.2)) ↔
      ∃ id value other, first.get? id = some value ∧ second.get? id = some other ∧ make id value other = made := by
  -- Each entry of the first map is looked up in the second one.
  simp only [List.mem_filterMap, Option.map_eq_some_iff, Prod.exists, mem_entries_iff]
  constructor
  · rintro ⟨id, value, inFirst, other, inSecond, same⟩
    exact ⟨id, value, other, inFirst, inSecond, same⟩
  · rintro ⟨id, value, other, inFirst, inSecond, same⟩
    exact ⟨id, value, inFirst, other, inSecond, same⟩

/-- A map is known from what is found in it. -/
theorem eq_of_get?_eq {first second : IdMap α} (same : ∀ id, first.get? id = second.get? id) :
    first = second := by
  -- Both lists of entries hold the same entries, and their keys increase.
  obtain ⟨entries, increasing⟩ := first
  obtain ⟨entries', increasing'⟩ := second
  have ordered : entries.Pairwise (·.1 < ·.1) := List.pairwise_map.mp increasing
  have ordered' : entries'.Pairwise (·.1 < ·.1) := List.pairwise_map.mp increasing'
  have differ : ∀ one other : PersonId × α, one.1 < other.1 → one ≠ other :=
    fun one _ below equal => PersonId.lt_irrefl one.1 (equal ▸ below)
  have members : ∀ entry, entry ∈ entries ↔ entry ∈ entries' := by
    intro (id, value)
    have here := mem_entries_iff ⟨entries, increasing⟩ id value
    rw [same id] at here
    exact here.trans (mem_entries_iff ⟨entries', increasing'⟩ id value).symm
  have reordered : entries.Perm entries' :=
    (List.perm_ext_iff_of_nodup (ordered.imp (differ _ _)) (ordered'.imp (differ _ _))).mpr members
  have equal : entries = entries' := by
    refine reordered.eq_of_pairwise (fun one other _ _ below above => ?_) ordered ordered'
    exact absurd (PersonId.lt_trans below above) (PersonId.lt_irrefl one.1)
  subst equal
  rfl

/-- Entries agree when they give each identifier one value. -/
def Agree (entries : List (PersonId × α)) : Prop :=
  -- Two entries of one identifier hold the same value.
  ∀ id value other, (id, value) ∈ entries → (id, other) ∈ entries → value = other

/-- Writing entries that agree adds exactly them to a map that does not contradict them. -/
theorem get?_foldl_insert {entries : List (PersonId × α)} {map : IdMap α} (agree : Agree entries)
    (fits : ∀ id value other, map.get? id = some value → (id, other) ∈ entries → value = other)
    (id : PersonId) (value : α) :
    (entries.foldl (fun map entry => map.insert entry.1 entry.2) map).get? id = some value ↔
      map.get? id = some value ∨ (id, value) ∈ entries := by
  -- The first entry is written, and the map after it does not contradict the others either.
  induction entries generalizing map with
  | nil => simp
  | cons entry rest ih =>
    obtain ⟨key, held⟩ := entry
    have restAgree : Agree rest := fun id value other first second =>
      agree id value other (by simp [first]) (by simp [second])
    have restFits : ∀ id value other, (map.insert key held).get? id = some value →
        (id, other) ∈ rest → value = other := by
      intro id value other found member
      rw [get?_insert] at found
      split at found
      · rename_i same
        subst same
        cases found
        exact agree id held other (by simp) (by simp [member])
      · exact fits id value other found (by simp [member])
    rw [List.foldl_cons, ih restAgree restFits, get?_insert]
    by_cases same : id = key
    · -- The value that is written is the only one that the entries and the map give.
      subst same
      constructor
      · rintro (found | member)
        · rw [if_pos rfl] at found
          cases found
          exact Or.inr (by simp)
        · exact Or.inr (by simp [member])
      · rintro (found | member)
        · left
          simp [fits id value held found (by simp)]
        · rcases List.mem_cons.mp member with equal | member
          · left
            cases equal
            simp
          · exact Or.inr member
    · -- Another identifier is not touched by the first entry.
      simp [same]

/-- A map of entries that agree holds exactly these entries. -/
theorem get?_ofList_eq_some {entries : List (PersonId × α)} (agree : Agree entries)
    (id : PersonId) (value : α) :
    (ofList entries).get? id = some value ↔ (id, value) ∈ entries := by
  -- The entries are written into the empty map.
  have fits : ∀ id value other, (empty : IdMap α).get? id = some value →
      (id, other) ∈ entries → value = other := by simp [get?, empty]
  have written := get?_foldl_insert agree fits id value
  simpa [ofList, get?, empty] using written

end IdMap

/-- Striking out the entries of one label leaves what is found under the others. -/
theorem lookup_filter_ne {α : Type} {label other : String} (differ : other ≠ label)
    (entries : List (String × α)) :
    (entries.filter fun entry => entry.1 != label).lookup other = entries.lookup other := by
  -- A search for another label passes over every entry that is struck out.
  induction entries with
  | nil => rfl
  | cons entry rest ih =>
    obtain ⟨name, value⟩ := entry
    by_cases struck : name = label
    · have passed : (other == label) = false := by simpa using differ
      simp [struck, ih, List.lookup_cons, passed]
    · simp [struck, ih, List.lookup_cons]

end Kindred
