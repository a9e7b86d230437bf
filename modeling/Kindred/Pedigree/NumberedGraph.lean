import Kindred.Pedigree.Table

/-! The graph of a family as it is built from the records one after the other: people have numbers in the order in
which they come, and links join numbers. -/

namespace Kindred

/-- The number of a person is the place in the list of people, and is looked up under the identifier. A link leads
from the number of a parent to that of a child. -/
structure NumberedGraph where
  people : List PersonId
  numbers : IdMap Nat
  links : List (Nat × Nat)

/-- Links lead up to parents and down to children. -/
inductive Direction where
  | up
  | down
deriving DecidableEq, Repr

namespace Direction

variable {α : Type}

/-- The end of a link from which it leads in a direction. -/
def near : Direction → α × α → α
  | .up, link => link.2
  | .down, link => link.1

/-- The end of a link to which it leads in a direction. -/
def far : Direction → α × α → α
  | .up, link => link.1
  | .down, link => link.2

end Direction

/-- Identifiers in increasing order, as often as they occur. -/
def sortAll (ids : List PersonId) : List PersonId :=
  ids.mergeSort fun first second => decide ¬second < first

namespace NumberedGraph

/-- The graph without people. -/
def empty : NumberedGraph :=
  ⟨[], .empty, []⟩

/-- Gives the next number to an identifier, unless it has one. -/
def addPerson (graph : NumberedGraph) (id : PersonId) : NumberedGraph :=
  if graph.numbers.contains id then
    graph
  else
    { graph with
      people := graph.people ++ [id]
      numbers := graph.numbers.insert id graph.people.length }

/-- Joins the numbers of two different people, unless a link joins them already. -/
def addLink (graph : NumberedGraph) (edge : ParentEdge) : NumberedGraph :=
  if edge.isSelfLoop then
    graph
  else
    match graph.numbers.get? edge.parent, graph.numbers.get? edge.child with
    | some parent, some child =>
      if (parent, child) ∈ graph.links then graph
      else { graph with links := graph.links ++ [(parent, child)] }
    | _, _ => graph

/-- The graph of a list of people and a list of links. -/
def ofRecords (people : List Person) (edges : List ParentEdge) : NumberedGraph :=
  edges.foldl addLink ((people.map Person.id).foldl addPerson empty)

/-- The people who have some numbers, in increasing order. -/
def peopleAt (graph : NumberedGraph) (numbers : List Nat) : List PersonId :=
  sortAll (numbers.filterMap fun number => graph.people[number]?)

/-- The people to whom links lead from a person; nobody, for an identifier without a number. -/
def neighbours (graph : NumberedGraph) (direction : Direction) (id : PersonId) : List PersonId :=
  match graph.numbers.get? id with
  | some number =>
    graph.peopleAt ((graph.links.filter fun link => direction.near link = number).map direction.far)
  | none => []

/-- The neighbours of everybody who has a number. -/
def rows (graph : NumberedGraph) (direction : Direction) : IdMap (List PersonId) :=
  .ofList (graph.numbers.keys.map fun id => (id, graph.neighbours direction id))

/-- The parents and the children of everybody who has a number. -/
def table (graph : NumberedGraph) : KinTable :=
  ⟨graph.rows .up, graph.rows .down⟩

/-- The people with numbers of one kind, in increasing order. -/
def select (graph : NumberedGraph) (fits : Nat → Bool) : List PersonId :=
  sortAll ((graph.numbers.entries.filter fun entry => fits entry.2).map Prod.fst)

/-- The people from whom no link leads in a direction: upwards the founders, downwards the childless. -/
def ends (graph : NumberedGraph) (direction : Direction) : List PersonId :=
  graph.select fun number => !graph.links.any fun link => direction.near link = number

/-- The groups of more than one person among some components, each group and then all of them in increasing order. -/
def groups (graph : NumberedGraph) (components : List (List Nat)) : List (List PersonId) :=
  let several := components.filter fun component => 1 < component.length
  (several.map graph.peopleAt).mergeSort fun first second => decide ¬second < first

end NumberedGraph

end Kindred
