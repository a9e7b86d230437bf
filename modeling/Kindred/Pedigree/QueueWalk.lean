import Kindred.Pedigree.Ascent

/-! The walk upwards with a queue: people are taken from its front one after the other, and their parents join
its end when they are met for the first time. -/

namespace Kindred

/-- A walk on its way: who has been met, who is still to be taken and how far up they stand, and the distances
that have been written down. -/
structure QueueWalk where
  met : List PersonId
  queue : List (PersonId × Nat)
  distances : IdMap Nat

namespace QueueWalk

/-- At the beginning only the start has been met. -/
def startingAt (start : PersonId) : QueueWalk :=
  ⟨[start], [(start, 0)], .empty⟩

/-- Meets somebody at a distance. Whoever has been met before is passed over. -/
def meet (distance : Nat) (walk : QueueWalk) (id : PersonId) : QueueWalk :=
  if id ∈ walk.met then walk
  else ⟨id :: walk.met, walk.queue ++ [(id, distance)], walk.distances.insert id distance⟩

/-- Takes the first person of the queue and meets the parents. When nobody is left, the walk has ended. -/
def turn (above : PersonId → List PersonId) (walk : QueueWalk) : QueueWalk :=
  match walk.queue with
  | [] => walk
  | (current, distance) :: rest =>
    (above current).foldl (meet (distance + 1)) { walk with queue := rest }

/-- The walk after that many turns. -/
def turns (above : PersonId → List PersonId) : Nat → QueueWalk → QueueWalk
  | 0, walk => walk
  | count + 1, walk => turns above count (walk.turn above)

end QueueWalk

end Kindred
