import Kindred.IdMap

/-! The nearest ancestor that two people share. Distances are numbers of steps that a walk has counted, and their sums
are no larger than twice the number of people. -/

namespace Kindred

/-- A shared ancestor and how far it stands above each of the two. -/
structure CommonAncestor where
  id : PersonId
  distanceA : Nat
  distanceB : Nat
deriving DecidableEq, Repr

namespace CommonAncestor

/-- The sum of the distances decides, then the larger one, then the identifier. -/
def isNearer (first second : CommonAncestor) : Bool :=
  let sum := first.distanceA + first.distanceB
  let otherSum := second.distanceA + second.distanceB
  let larger := max first.distanceA first.distanceB
  let otherLarger := max second.distanceA second.distanceB
  sum < otherSum ||
    (sum == otherSum &&
      (larger < otherLarger || (larger == otherLarger && decide (first.id < second.id))))

/-- The ancestors in both maps. -/
def candidates (distancesA distancesB : IdMap Nat) : List CommonAncestor :=
  distancesA.entries.filterMap fun entry =>
    (distancesB.get? entry.1).map fun distanceB => ⟨entry.1, entry.2, distanceB⟩

/-- The nearest of a list of shared ancestors. -/
def nearest? : List CommonAncestor → Option CommonAncestor
  | [] => none
  | first :: rest => some (rest.foldl (fun best other => if other.isNearer best then other else best) first)

/-- The nearest ancestor in both maps. -/
def resolve? (distancesA distancesB : IdMap Nat) : Option CommonAncestor :=
  nearest? (candidates distancesA distancesB)

end CommonAncestor

end Kindred
