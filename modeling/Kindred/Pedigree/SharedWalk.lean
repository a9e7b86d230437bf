import Kindred.Number.Digits
import Kindred.Pedigree.NearestCommon

/-! The walk over two maps of distances that finds the nearest shared ancestor. Distances and their sums are words of
64 binary digits. -/

namespace Kindred

/-- What an addition does when the sum does not fit into a word: it drops the upper digit, or it ends the program. -/
inductive Overflow where
  | wraps
  | stops
deriving DecidableEq, Repr

/-- The sum of two words, unless the addition ends the program. -/
def Overflow.add? (overflow : Overflow) (k l : UInt64) : Option UInt64 :=
  match overflow with
  | .wraps => some (k + l)
  | .stops => if k.toNat + l.toNat ≤ maxCount then some (k + l) else none

/-- An ancestor in both maps, with both distances as words. -/
structure SharedAncestor where
  id : PersonId
  distanceA : UInt64
  distanceB : UInt64
deriving DecidableEq, Repr

namespace SharedAncestor

/-- The same ancestor with the distances as numbers. -/
def counted (shared : SharedAncestor) : CommonAncestor :=
  ⟨shared.id, shared.distanceA.toNat, shared.distanceB.toNat⟩

/-- The ancestor of an entry of the first map, if the second one has it, too. -/
def find? (distancesB : IdMap UInt64) (entry : PersonId × UInt64) : Option SharedAncestor :=
  (distancesB.get? entry.1).map fun distanceB => ⟨entry.1, entry.2, distanceB⟩

/-- A shared ancestor with the sum of its distances and the larger one. -/
structure Measured where
  sum : UInt64
  larger : UInt64
  ancestor : SharedAncestor
deriving DecidableEq, Repr

/-- Measures a shared ancestor, unless the addition ends the program. -/
def measure? (overflow : Overflow) (shared : SharedAncestor) : Option Measured :=
  (overflow.add? shared.distanceA shared.distanceB).map fun sum =>
    ⟨sum, max shared.distanceA shared.distanceB, shared⟩

/-- The sum decides, then the larger distance. Identifiers are not compared. -/
def Measured.isLess (first second : Measured) : Bool :=
  first.sum < second.sum || (first.sum == second.sum && first.larger < second.larger)

/-- The best so far after one more shared ancestor, who takes its place if the best so far is not as near. -/
def keepNearer (overflow : Overflow) (best : Option Measured) (shared : SharedAncestor) :
    Option (Option Measured) :=
  (measure? overflow shared).map fun found =>
    match best with
    | none => some found
    | some held => if found.isLess held then some found else some held

/-- One turn of the walk. An entry whose ancestor is not shared is passed over. -/
def consider (overflow : Overflow) (distancesB : IdMap UInt64) (best : Option Measured)
    (entry : PersonId × UInt64) : Option (Option Measured) :=
  match find? distancesB entry with
  | some shared => keepNearer overflow best shared
  | none => some best

/-- The walk over the first map, in the order of the identifiers. There is no answer when an addition ends the
program. -/
def walk (overflow : Overflow) (distancesA distancesB : IdMap UInt64) : Option (Option SharedAncestor) :=
  (distancesA.entries.foldlM (consider overflow distancesB) none).map fun best => best.map Measured.ancestor

end SharedAncestor

end Kindred
