import Kindred.Person

/-! Lists and finite maps of identifiers, kept in strictly increasing order. -/

namespace Kindred

/-- Adds an identifier to an increasing list, once. -/
def insertId (id : PersonId) : List PersonId → List PersonId
  | [] => [id]
  | head :: rest =>
    if id < head then id :: head :: rest
    else if id = head then head :: rest
    else head :: insertId id rest

/-- The identifiers of a list in increasing order, each once. -/
def sortIds (ids : List PersonId) : List PersonId :=
  ids.foldr insertId []

/-- Insertion adds the given identifier and nothing else. -/
theorem mem_insertId {id other : PersonId} {ids : List PersonId} :
    other ∈ insertId id ids ↔ other = id ∨ other ∈ ids := by
  -- Each branch keeps the head, and only an equal head is not repeated.
  induction ids with
  | nil => simp [insertId]
  | cons head rest ih =>
    simp only [insertId]
    split
    · simp
    · split
      · rename_i same
        subst same
        simp
      · simp only [List.mem_cons, ih]
        constructor <;> rintro (h | h | h) <;> simp [h]

/-- Insertion keeps a list strictly increasing. -/
theorem pairwise_insertId {id : PersonId} {ids : List PersonId}
    (increasing : ids.Pairwise (· < ·)) : (insertId id ids).Pairwise (· < ·) := by
  -- The new identifier stands before the first one that it precedes.
  induction ids with
  | nil => simp [insertId]
  | cons head rest ih =>
    obtain ⟨above, tail⟩ := List.pairwise_cons.mp increasing
    simp only [insertId]
    split
    · rename_i before
      refine List.pairwise_cons.mpr ⟨fun other member => ?_, increasing⟩
      rcases List.mem_cons.mp member with same | member
      · exact same ▸ before
      · exact PersonId.lt_trans before (above other member)
    · split
      · exact increasing
      · rename_i notBefore different
        refine List.pairwise_cons.mpr ⟨fun other member => ?_, ih tail⟩
        rcases mem_insertId.mp member with same | member
        · exact same ▸ PersonId.lt_of_not_lt different notBefore
        · exact above other member

/-- Sorting keeps exactly the identifiers of the list. -/
theorem mem_sortIds {id : PersonId} {ids : List PersonId} : id ∈ sortIds ids ↔ id ∈ ids := by
  -- One identifier is inserted at a time.
  induction ids with
  | nil => simp [sortIds]
  | cons head rest ih =>
    have step : sortIds (head :: rest) = insertId head (sortIds rest) := rfl
    rw [step, mem_insertId, ih, List.mem_cons]

/-- A sorted list is strictly increasing. -/
theorem pairwise_sortIds (ids : List PersonId) : (sortIds ids).Pairwise (· < ·) := by
  -- Every insertion keeps the order.
  induction ids with
  | nil => exact List.Pairwise.nil
  | cons head rest ih => exact pairwise_insertId ih

/-- Writes a value under an identifier into increasing entries, over the value that stood there. -/
def insertEntry {α : Type} (id : PersonId) (value : α) :
    List (PersonId × α) → List (PersonId × α)
  | [] => [(id, value)]
  | (key, held) :: rest =>
    if id < key then (id, value) :: (key, held) :: rest
    else if id = key then (id, value) :: rest
    else (key, held) :: insertEntry id value rest

/-- The keys after a write are the keys before it and the one written. -/
theorem map_fst_insertEntry {α : Type} (id : PersonId) (value : α)
    (entries : List (PersonId × α)) :
    (insertEntry id value entries).map Prod.fst = insertId id (entries.map Prod.fst) := by
  -- Both walks compare the same identifiers.
  induction entries with
  | nil => rfl
  | cons entry rest ih =>
    obtain ⟨key, held⟩ := entry
    simp only [insertEntry, List.map_cons, insertId]
    split
    · rfl
    · split
      · rename_i same
        simp [same]
      · simp [ih]

/-- A finite map from identifiers, its entries in strictly increasing order. -/
structure IdMap (α : Type) where
  entries : List (PersonId × α)
  increasing : (entries.map Prod.fst).Pairwise (· < ·)

namespace IdMap

variable {α : Type}

/-- The map without entries. -/
def empty : IdMap α :=
  ⟨[], List.Pairwise.nil⟩

/-- The map with one value written under an identifier. -/
def insert (map : IdMap α) (id : PersonId) (value : α) : IdMap α where
  entries := insertEntry id value map.entries
  increasing := by
    rw [map_fst_insertEntry]
    exact pairwise_insertId map.increasing

/-- The map with one value changed, or the same map when the identifier has none. -/
def modify (map : IdMap α) (id : PersonId) (change : α → α) : IdMap α where
  entries := map.entries.map fun entry => (entry.1, if entry.1 = id then change entry.2 else entry.2)
  increasing := by
    simpa [List.map_map, Function.comp_def] using map.increasing

/-- The map with every value changed. -/
def mapValues {β : Type} (map : IdMap α) (change : α → β) : IdMap β where
  entries := map.entries.map fun entry => (entry.1, change entry.2)
  increasing := by
    simpa [List.map_map, Function.comp_def] using map.increasing

/-- The map of a list of entries. Of two values under one identifier the later one stays. -/
def ofList (entries : List (PersonId × α)) : IdMap α :=
  entries.foldl (fun map entry => map.insert entry.1 entry.2) empty

/-- The value under an identifier. -/
def get? (map : IdMap α) (id : PersonId) : Option α :=
  (map.entries.find? fun entry => entry.1 = id).map Prod.snd

/-- The identifiers that have a value, in increasing order. -/
def keys (map : IdMap α) : List PersonId :=
  map.entries.map Prod.fst

/-- The identifier has a value. -/
def contains (map : IdMap α) (id : PersonId) : Bool :=
  map.entries.any fun entry => entry.1 = id

end IdMap

end Kindred
