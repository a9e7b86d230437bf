import Kindred.Pedigree.Ascent

/-! The search for a chain with a queue and pointers: everybody who is met points to the person below, and from the
ancestor the pointers are followed back down. -/

namespace Kindred

/-- A search on its way up: who has been met, who is still to be taken and how far up they stand, and for everybody
met but the start the person below. -/
structure PointerSearch where
  met : List PersonId
  queue : List (PersonId × Nat)
  below : IdMap PersonId

namespace PointerSearch

/-- At the beginning only the start has been met, and it points to nobody. -/
def startingAt (start : PersonId) : PointerSearch :=
  ⟨[start], [(start, 0)], .empty⟩

/-- Meets somebody above a person. Whoever has been met before is passed over. -/
def meet (person : PersonId) (distance : Nat) (search : PointerSearch) (id : PersonId) : PointerSearch :=
  if id ∈ search.met then search
  else ⟨id :: search.met, search.queue ++ [(id, distance)], search.below.insert id person⟩

end PointerSearch

/-- A walk up to an ancestor and back down along the pointers. On the way down it lists the people passed, the
ancestor first. -/
inductive PointerWalk where
  | up (search : PointerSearch)
  | down (below : IdMap PersonId) (passed : List PersonId) (current : PersonId)
  | ended (path : Option (List PersonId))

namespace PointerWalk

/-- One turn of a walk. On the way up it takes the first person of the queue: the ancestor ends the way up, nobody is
met above a person who stands at the greatest depth, and without anybody left there is no chain. -/
def turn (above : PersonId → List PersonId) (ancestor : PersonId) (maxDepth : Nat) :
    PointerWalk → PointerWalk
  | .up search =>
    match search.queue with
    | [] => .ended none
    | (current, distance) :: rest =>
      if current = ancestor then .down search.below [current] current
      else if maxDepth ≤ distance then .up { search with queue := rest }
      else
        .up ((above current).foldl (PointerSearch.meet current (distance + 1)) { search with queue := rest })
  | .down below passed current =>
    match below.get? current with
    | some id => .down below (passed ++ [id]) id
    | none => .ended (some passed.reverse)
  | .ended path => .ended path

/-- The walk after that many turns. -/
def turns (above : PersonId → List PersonId) (ancestor : PersonId) (maxDepth : Nat) :
    Nat → PointerWalk → PointerWalk
  | 0, walk => walk
  | count + 1, walk => turns above ancestor maxDepth count (walk.turn above ancestor maxDepth)

end PointerWalk

end Kindred
