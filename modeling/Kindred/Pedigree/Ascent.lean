import Kindred.Pedigree.Table

/-! Who stands above a person, how many generations up, and along which chain. -/

namespace Kindred

/-- A chain of people, each a parent of the one below. It ends at the person it started from. -/
structure Chain where
  top : PersonId
  below : List PersonId
deriving DecidableEq, Repr

namespace Chain

/-- The chain of one person. -/
def single (id : PersonId) : Chain :=
  ⟨id, []⟩

/-- The chain from its start to its top. -/
def fromBottom (chain : Chain) : List PersonId :=
  (chain.top :: chain.below).reverse

/-- The chains that go one step further. -/
def extend (above : PersonId → List PersonId) (chain : Chain) : List Chain :=
  (above chain.top).map fun id => ⟨id, chain.top :: chain.below⟩

end Chain

/-- The chains that reach somebody not met before. Of several to one person the first stays. -/
def keepNew (met : List PersonId) : List Chain → List Chain
  | [] => []
  | chain :: rest =>
    if chain.top ∈ met then keepNew met rest
    else chain :: keepNew (chain.top :: met) rest

/-- The chains of the next generations, one list for each, until a generation brings nobody new. -/
def generations (above : PersonId → List PersonId) :
    Nat → List PersonId → List Chain → List (List Chain)
  | 0, _, _ => []
  | rounds + 1, met, level =>
    let next := keepNew met (level.flatMap (Chain.extend above))
    if next.isEmpty then []
    else next :: generations above rounds (next.map Chain.top ++ met) next

/-- The generations above one person, when at most that many people can be named. -/
def generationsFrom (above : PersonId → List PersonId) (bound : Nat) (start : PersonId) :
    List (List Chain) :=
  generations above bound [start] [Chain.single start]

namespace KinTable

/-- The generations above a person. Each person stands in the first generation that names them. -/
def generationsAbove (table : KinTable) (start : PersonId) : List (List Chain) :=
  generationsFrom table.parents table.parentCount start

/-- The least number of steps up to each ancestor. -/
def ancestorDistances (table : KinTable) (start : PersonId) : IdMap Nat :=
  IdMap.ofList <| ((table.generationsAbove start).zipIdx 1).flatMap fun (level, distance) =>
    level.map fun chain => (chain.top, distance)

/-- A shortest chain from a person to an ancestor, when it has at most that many steps. -/
def ancestryPath (table : KinTable) (descendant ancestor : PersonId) (maxDepth : Nat) :
    Option (List PersonId) :=
  if descendant = ancestor then
    some [descendant]
  else
    (((table.generationsAbove descendant).take maxDepth).flatten.find? fun chain =>
      chain.top = ancestor).map Chain.fromBottom

end KinTable

end Kindred
