import Kindred.Pedigree.Ascent

/-! The graph of the kept links: its founders, its cycles and its numbers. -/

namespace Kindred

/-- The people of the records and the links that join two of them, each once. -/
structure Pedigree where
  people : List PersonId
  links : List ParentEdge
deriving Repr

namespace Pedigree

/-- A link is kept when it joins two different people of the records. -/
def keeps (people : List PersonId) (edge : ParentEdge) : Bool :=
  !edge.isSelfLoop && people.contains edge.parent && people.contains edge.child

/-- The graph of a list of people and a list of links. -/
def ofRecords (people : List Person) (edges : List ParentEdge) : Pedigree :=
  let ids := sortIds (people.map Person.id)
  ⟨ids, (edges.filter (keeps ids)).eraseDups⟩

/-- The identifier belongs to a person of the graph. -/
def contains (graph : Pedigree) (id : PersonId) : Bool :=
  graph.people.contains id

/-- The parents of a person, in increasing order. -/
def parents (graph : Pedigree) (id : PersonId) : List PersonId :=
  sortIds ((graph.links.filter fun link => link.child = id).map ParentEdge.parent)

/-- The children of a person, in increasing order. -/
def children (graph : Pedigree) (id : PersonId) : List PersonId :=
  sortIds ((graph.links.filter fun link => link.parent = id).map ParentEdge.child)

/-- The people without a recorded parent. -/
def founders (graph : Pedigree) : List PersonId :=
  graph.people.filter fun id => !graph.links.any fun link => link.child = id

/-- The people without a recorded child. -/
def childless (graph : Pedigree) : List PersonId :=
  graph.people.filter fun id => !graph.links.any fun link => link.parent = id

/-- Everybody else who can be reached from a person along the given steps. -/
def reached (graph : Pedigree) (step : PersonId → List PersonId) (start : PersonId) :
    List PersonId :=
  (generationsFrom step graph.links.length start).flatten.map Chain.top

/-- A person together with everybody who is both an ancestor and a descendant. -/
def circle (graph : Pedigree) (id : PersonId) : List PersonId :=
  let above := graph.reached graph.parents id
  let below := graph.reached graph.children id
  sortIds (id :: above.filter below.contains)

/-- The groups of people who are each other's ancestors, each group listed under its least member. -/
def cycles (graph : Pedigree) : List (List PersonId) :=
  graph.people.filterMap fun id =>
    let group := graph.circle id
    if 1 < group.length ∧ group.head? = some id then some group else none

/-- Sets aside, round after round, everybody none of whose parents is left. -/
def withoutFounders (graph : Pedigree) : Nat → List PersonId → List PersonId
  | 0, left => left
  | rounds + 1, left =>
    let next := left.filter fun id => (graph.parents id).any left.contains
    if next.length = left.length then left else graph.withoutFounders rounds next

/-- No chain of links leads back to its start: everybody is set aside in the end. -/
def isAcyclic (graph : Pedigree) : Bool :=
  (graph.withoutFounders graph.people.length graph.people).isEmpty

end Pedigree

end Kindred
