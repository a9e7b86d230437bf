import Kindred.Proofs.IdMap
import Kindred.Proofs.Pedigree.Distance
import Mathlib.Data.List.Chain

/-! Lists of people that lead up from one person to another, and the least of the shortest of them. -/

namespace Kindred

/-- A list of people leads up from one person to another. -/
structure LeadsUp (parent : PersonId → PersonId → Prop) (low top : PersonId) (path : List PersonId) :
    Prop where
  starts : path.head? = some low
  ends : path.getLast? = some top
  climbs : path.IsChain fun id next => parent next id

/-- A list of people is the shortest that leads from one person up to another, and of several the least, by the
identifiers from below. -/
structure IsLeastPath (parent : PersonId → PersonId → Prop) (low top : PersonId)
    (path : List PersonId) : Prop where
  leads : LeadsUp parent low top path
  shortest : ∀ other, LeadsUp parent low top other → path.length ≤ other.length
  least : ∀ other, LeadsUp parent low top other → other.length = path.length →
    other = path ∨ path < other

/-- The order of identifiers is transitive, and so is that of lists of them. -/
instance : Trans (fun a b : PersonId => a < b) (fun a b => a < b) fun a b => a < b where
  trans := PersonId.lt_trans

/-- What is the same as a list or comes after it comes after, or is the same as, everything that the list comes after
or is. -/
theorem eq_or_lt_trans {first second third : List PersonId} (one : second = first ∨ first < second)
    (other : third = second ∨ second < third) : third = first ∨ first < third := by
  cases one with
  | inl same => exact same ▸ other
  | inr less =>
    cases other with
    | inl same => exact Or.inr (same ▸ less)
    | inr more => exact Or.inr (List.lt_trans less more)

/-- Lists of one length keep their order whatever is added at their ends. -/
theorem append_lt_append {first second : List PersonId} (less : first < second)
    (size : first.length = second.length) (third fourth : List PersonId) :
    first ++ third < second ++ fourth := by
  -- The first place at which the two differ decides, and it lies before either end.
  induction less with
  | nil => simp at size
  | rel below => exact List.Lex.rel below
  | cons _ ih => exact List.Lex.cons (ih (by simpa using size))

variable {parent : PersonId → PersonId → Prop} {low middle top : PersonId} {path : List PersonId}

namespace LeadsUp

/-- A single person leads to himself or herself. -/
theorem single (id : PersonId) : LeadsUp parent id id [id] :=
  ⟨rfl, rfl, List.isChain_singleton id⟩

/-- A list that leads up to somebody can be continued by a parent. -/
theorem concat (below : LeadsUp parent low middle path) (up : parent top middle) :
    LeadsUp parent low top (path ++ [top]) := by
  refine ⟨by simp [below.starts], by simp, List.isChain_append.mpr ⟨below.climbs, List.isChain_singleton top, ?_⟩⟩
  -- The only new step is the one from the former end.
  intro last isLast next isNext
  have sameLast : middle = last := by simpa [below.ends] using isLast
  have sameNext : top = next := by simpa using isNext
  rw [← sameLast, ← sameNext]
  exact up

/-- A list that leads up is a single person, or its last step goes to the parent at its end. -/
theorem eq_single_or_concat (leads : LeadsUp parent low top path) :
    (path = [low] ∧ low = top) ∨
      ∃ below middle, path = below ++ [top] ∧ LeadsUp parent low middle below ∧ parent top middle := by
  obtain ⟨starts, ends, climbs⟩ := leads
  obtain ⟨below, rfl⟩ := List.getLast?_eq_some_iff.mp ends
  rw [List.isChain_append] at climbs
  obtain ⟨belowClimbs, _, lastStep⟩ := climbs
  cases last : below.getLast? with
  | none =>
    -- Nobody stands before the end.
    have empty : below = [] := List.getLast?_eq_none_iff.mp last
    subst empty
    have same : top = low := by simpa using starts
    exact Or.inl ⟨by simp [same], same.symm⟩
  | some middle =>
    have nonempty : below ≠ [] := by
      intro empty
      simp [empty] at last
    have belowStarts : below.head? = some low := by
      rwa [List.head?_append_of_ne_nil _ nonempty] at starts
    exact Or.inr ⟨below, middle, rfl, ⟨belowStarts, last, belowClimbs⟩, lastStep middle last top rfl⟩

/-- A list that leads up can begin one generation earlier. -/
theorem cons (above : LeadsUp parent middle top path) (up : parent middle low) :
    LeadsUp parent low top (low :: path) := by
  obtain ⟨starts, ends, climbs⟩ := above
  refine ⟨rfl, ?_, List.isChain_cons.mpr ⟨?_, climbs⟩⟩
  · rw [List.getLast?_cons, ends]
    rfl
  · intro next isNext
    have same : middle = next := by simpa [starts] using isNext
    rw [← same]
    exact up

/-- A list that leads up is a single person, or its first step goes to a parent of the person at its beginning. -/
theorem eq_single_or_cons (leads : LeadsUp parent low top path) :
    (path = [low] ∧ low = top) ∨
      ∃ next rest, path = low :: rest ∧ parent next low ∧ LeadsUp parent next top rest := by
  obtain ⟨starts, ends, climbs⟩ := leads
  obtain ⟨rest, rfl⟩ := List.head?_eq_some_iff.mp starts
  rw [List.isChain_cons] at climbs
  obtain ⟨firstStep, restClimbs⟩ := climbs
  cases first : rest.head? with
  | none =>
    -- Nobody stands behind the beginning.
    have empty : rest = [] := List.head?_eq_none_iff.mp first
    subst empty
    have same : low = top := by simpa using ends
    exact Or.inl ⟨rfl, same⟩
  | some next =>
    have restEnds : rest.getLast? = some top := by
      cases rest with
      | nil => simp at first
      | cons second others => simpa [List.getLast?_cons_cons] using ends
    exact Or.inr ⟨next, rest, rfl, firstStep next first, ⟨first, restEnds, restClimbs⟩⟩

/-- What holds of a single person, and of a longer list when it holds of the list without its end, holds of every list
that leads up. -/
theorem concatInduction {motive : PersonId → List PersonId → Prop} (single : motive low [low])
    (concat : ∀ middle top path, LeadsUp parent low middle path → parent top middle →
      motive middle path → motive top (path ++ [top]))
    (leads : LeadsUp parent low top path) : motive top path := by
  -- The induction is on the number of people.
  induction size : path.length generalizing top path with
  | zero =>
    have nobody := List.length_eq_zero_iff.mp size
    have starts := leads.starts
    simp [nobody] at starts
  | succ count ih =>
    cases leads.eq_single_or_concat with
    | inl alone =>
      obtain ⟨rfl, rfl⟩ := alone
      exact single
    | inr longer =>
      obtain ⟨below, middle, rfl, belowLeads, up⟩ := longer
      have shorter : below.length = count := by simpa using size
      exact concat middle top below belowLeads up (ih belowLeads shorter)

/-- A list that leads up is a chain of one step less than it has people. -/
theorem ascends (leads : LeadsUp parent low top path) :
    ∃ steps, path.length = steps + 1 ∧ Ascends parent steps low top := by
  refine leads.concatInduction
    (motive := fun top path => ∃ steps, path.length = steps + 1 ∧ Ascends parent steps low top)
    ⟨0, rfl, .refl low⟩ ?_
  intro middle top below _ up climbed
  obtain ⟨steps, size, chain⟩ := climbed
  exact ⟨steps + 1, by simp [size], chain.step up⟩

/-- Everybody on a list that leads up stands fewer steps up than the list has people. -/
theorem exists_ascends_of_mem (leads : LeadsUp parent low top path) :
    ∀ id ∈ path, ∃ steps, steps < path.length ∧ Ascends parent steps low id := by
  refine leads.concatInduction
    (motive := fun _ path => ∀ id ∈ path, ∃ steps, steps < path.length ∧ Ascends parent steps low id) ?_ ?_
  · intro id member
    have same : id = low := by simpa using member
    rw [same]
    exact ⟨0, by simp, .refl low⟩
  · intro middle top below belowLeads up climbed id member
    cases List.mem_append.mp member with
    | inl before =>
      obtain ⟨steps, fewer, chain⟩ := climbed id before
      exact ⟨steps, by simp only [List.length_append]; omega, chain⟩
    | inr last =>
      -- The end is one step above the former end.
      have same : id = top := by simpa using last
      obtain ⟨steps, size, chain⟩ := belowLeads.ascends
      rw [same]
      exact ⟨steps + 1, by simp [size], chain.step up⟩

/-- On a shortest list nobody stands twice. -/
theorem nodup_of_isDistance {distance : Nat} (leads : LeadsUp parent low top path)
    (far : IsDistance parent low top distance) (size : path.length = distance + 1) : path.Nodup := by
  induction distance generalizing top path with
  | zero =>
    obtain ⟨id, rfl⟩ := List.length_eq_one_iff.mp size
    simp
  | succ distance ih =>
    cases leads.eq_single_or_concat with
    | inl alone => simp [alone.1] at size
    | inr longer =>
      obtain ⟨below, middle, rfl, belowLeads, up⟩ := longer
      have belowSize : below.length = distance + 1 := by simpa using size
      -- The former end stands one step less far up, so the list without the end is shortest too.
      obtain ⟨steps, belowSteps, chain⟩ := belowLeads.ascends
      have counted : steps = distance := by omega
      have belowNodup := ih belowLeads (far.before_step (counted ▸ chain) up) belowSize
      -- If the end had been passed before, fewer steps would lead to it.
      have new : top ∉ below := by
        intro passed
        obtain ⟨fewer, less, shorter⟩ := belowLeads.exists_ascends_of_mem top passed
        have least := far.least fewer shorter
        omega
      exact List.nodup_append.mpr ⟨belowNodup, by simp, fun id before other last equal => by
        have same : other = top := by simpa using last
        exact new (same ▸ equal ▸ before)⟩

end LeadsUp

/-- Along every chain a list leads up. -/
theorem Ascends.exists_leadsUp {steps : Nat} (chain : Ascends parent steps low top) :
    ∃ path, path.length = steps + 1 ∧ LeadsUp parent low top path := by
  induction chain with
  | refl id => exact ⟨[id], rfl, .single id⟩
  | step _ up ih =>
    obtain ⟨path, size, leads⟩ := ih
    exact ⟨path ++ [_], by simp [size], leads.concat up⟩

namespace IsLeastPath

/-- A shortest list has one person more than there are steps. -/
theorem exists_isDistance (shown : IsLeastPath parent low top path) :
    ∃ distance, path.length = distance + 1 ∧ IsDistance parent low top distance := by
  obtain ⟨distance, size, chain⟩ := shown.leads.ascends
  refine ⟨distance, size, chain, ?_⟩
  -- A shorter chain would be a shorter list.
  intro steps other
  obtain ⟨otherPath, otherSize, otherLeads⟩ := other.exists_leadsUp
  have least := shown.shortest otherPath otherLeads
  omega

/-- The number of people on a shortest list is known from the distance. -/
theorem length_eq {distance : Nat} (shown : IsLeastPath parent low top path)
    (far : IsDistance parent low top distance) : path.length = distance + 1 := by
  obtain ⟨steps, size, measured⟩ := shown.exists_isDistance
  rw [size, measured.unique far]

/-- A list of as many people as a shortest chain has is the one that is asked for, if no other of that length is
less. -/
theorem of_isDistance {distance : Nat} (leads : LeadsUp parent low top path)
    (far : IsDistance parent low top distance) (size : path.length = distance + 1)
    (least : ∀ other, LeadsUp parent low top other → other.length = path.length →
      other = path ∨ path < other) : IsLeastPath parent low top path := by
  refine ⟨leads, ?_, least⟩
  intro other otherLeads
  obtain ⟨steps, otherSize, chain⟩ := otherLeads.ascends
  have fewest := far.least steps chain
  omega

/-- Only one list is the least of the shortest. -/
theorem unique {first second : List PersonId} (one : IsLeastPath parent low top first)
    (other : IsLeastPath parent low top second) : first = second := by
  have size : first.length = second.length :=
    Nat.le_antisymm (one.shortest second other.leads) (other.shortest first one.leads)
  cases one.least second other.leads size.symm with
  | inl same => exact same.symm
  | inr below =>
    cases other.least first one.leads size with
    | inl same => exact same
    | inr above => exact absurd above (List.lt_asymm below)

/-- From a person to the same person, the list of that one is shortest. -/
theorem single (id : PersonId) : IsLeastPath parent id id [id] := by
  refine .of_isDistance (.single id) (IsDistance.self id) rfl ?_
  intro other leads size
  -- A second person on the list would make it longer.
  left
  cases leads.eq_single_or_concat with
  | inl alone => exact alone.1
  | inr longer =>
    obtain ⟨below, middle, rfl, belowLeads, _⟩ := longer
    obtain ⟨steps, belowSize, _⟩ := belowLeads.ascends
    simp [belowSize] at size

/-- Nobody stands on it twice. -/
theorem nodup (shown : IsLeastPath parent low top path) : path.Nodup := by
  obtain ⟨distance, size, far⟩ := shown.exists_isDistance
  exact shown.leads.nodup_of_isDistance far size

end IsLeastPath

end Kindred
