import Kindred.IdMap

/-! For every person of the records, the parents and the children. -/

namespace Kindred

/-- The parents and the children of each person, in increasing order. -/
structure KinTable where
  parentsOf : IdMap (List PersonId)
  childrenOf : IdMap (List PersonId)

namespace KinTable

/-- The person has a row. -/
def contains (table : KinTable) (id : PersonId) : Bool :=
  table.parentsOf.contains id

/-- The parents of a person; nobody, for an identifier without a row. -/
def parents (table : KinTable) (id : PersonId) : List PersonId :=
  (table.parentsOf.get? id).getD []

/-- The children of a person; nobody, for an identifier without a row. -/
def children (table : KinTable) (id : PersonId) : List PersonId :=
  (table.childrenOf.get? id).getD []

/-- A row without relatives for each person. -/
def ofPeople (people : List Person) : KinTable :=
  let rows := IdMap.ofList (people.map fun person => (person.id, []))
  ⟨rows, rows⟩

/-- Enters one link, unless it joins a person to itself or names somebody without a row. -/
def record (table : KinTable) (edge : ParentEdge) : KinTable :=
  if edge.isSelfLoop || !table.contains edge.parent || !table.contains edge.child then
    table
  else
    { parentsOf := table.parentsOf.modify edge.child (insertId edge.parent)
      childrenOf := table.childrenOf.modify edge.parent (insertId edge.child) }

/-- The table of a list of people and a list of links. -/
def ofRecords (people : List Person) (edges : List ParentEdge) : KinTable :=
  edges.foldl record (ofPeople people)

/-- How many parents are named in all rows together. -/
def parentCount (table : KinTable) : Nat :=
  table.parentsOf.entries.foldr (fun entry count => entry.2.length + count) 0

end KinTable

end Kindred
