import Kindred.Classify
import Kindred.Family.Document
import Kindred.Pedigree.Graph
import Kindred.Phrase.Compile

/-! A family that is edited: people, the links between them, and the source of new identifiers. -/

namespace Kindred

/-- Why a link or a person cannot be changed. -/
inductive TreeError where
  | selfLoop (id : PersonId)
  | unknownPerson (id : PersonId)
deriving DecidableEq, Repr

/-- The message of an error. -/
def TreeError.message : TreeError → String
  | .selfLoop id => "Person cannot be their own parent: " ++ id.text
  | .unknownPerson id => "Person not found: " ++ id.text

/-- People and links in the order in which they were entered, and the source of the next identifier. -/
structure FamilyTree where
  persons : List Person := []
  edges : List ParentEdge := []
  ids : IdSource := {}
deriving DecidableEq, Repr, Inhabited

namespace FamilyTree

/-- The first person with an identifier. -/
def person? (tree : FamilyTree) (id : PersonId) : Option Person :=
  tree.persons.find? fun person => person.id = id

/-- Somebody has the identifier. -/
def contains (tree : FamilyTree) (id : PersonId) : Bool :=
  (tree.person? id).isSome

/-- The first person of that name. -/
def personNamed? (tree : FamilyTree) (name : String) : Option Person :=
  tree.persons.find? fun person => person.name = name

/-- The identifier that a key means: one in use, or else the one of the first person of that name. -/
def resolve? (tree : FamilyTree) (key : String) : Option PersonId :=
  ((tree.person? ⟨key⟩).or (tree.personNamed? key)).map Person.id

/-- Enters a new person. -/
def addPerson (tree : FamilyTree) (name : String) (sex : Sex) (note : Option String) :
    PersonId × FamilyTree :=
  let (id, ids) := tree.ids.draw
  (id, { tree with ids := ids, persons := tree.persons ++ [⟨id, name, sex, note⟩] })

/-- Adds a link between two people. Tells whether it was new. -/
def addEdge (tree : FamilyTree) (parent child : PersonId) :
    Except TreeError (Bool × FamilyTree) :=
  let edge : ParentEdge := ⟨parent, child⟩
  if edge.isSelfLoop then .error (.selfLoop parent)
  else if !tree.contains parent then .error (.unknownPerson parent)
  else if !tree.contains child then .error (.unknownPerson child)
  else if tree.edges.contains edge then .ok (false, tree)
  else .ok (true, { tree with edges := tree.edges ++ [edge] })

/-- Removes a link. Tells whether it was there. -/
def removeEdge (tree : FamilyTree) (parent child : PersonId) : Bool × FamilyTree :=
  let edge : ParentEdge := ⟨parent, child⟩
  (tree.edges.contains edge, { tree with edges := tree.edges.filter (· != edge) })

/-- Removes the first person with an identifier, and all links of that identifier. -/
def removePerson (tree : FamilyTree) (id : PersonId) : Option Person × FamilyTree :=
  match tree.person? id with
  | none => (none, tree)
  | some person =>
    (some person,
      { tree with
        persons := tree.persons.eraseP fun other => other.id = id
        edges := tree.edges.filter fun edge => !edge.touches id })

/-- Changes the first person with an identifier. -/
def changePerson (tree : FamilyTree) (id : PersonId) (change : Person → Person) :
    Except TreeError FamilyTree :=
  if tree.contains id then
    .ok { tree with persons := changeFirst (fun person => person.id = id) change tree.persons }
  else
    .error (.unknownPerson id)

/-- Gives a person another name. -/
def rename (tree : FamilyTree) (id : PersonId) (name : String) : Except TreeError FamilyTree :=
  tree.changePerson id fun person => { person with name := name }

/-- Writes a note at a person, or takes the note away. -/
def setNote (tree : FamilyTree) (id : PersonId) (note : Option String) :
    Except TreeError FamilyTree :=
  tree.changePerson id fun person => { person with note := note }

/-- Moves the source of identifiers past one of them. -/
def observe (tree : FamilyTree) (id : PersonId) : FamilyTree :=
  { tree with ids := tree.ids.observe id }

/-- Moves the source of identifiers past those of a list of people. -/
def observeAll (ids : IdSource) (people : List Person) : IdSource :=
  people.foldl (fun ids person => ids.observe person.id) ids

/-- Lets the source of identifiers begin again. -/
def resetIds (tree : FamilyTree) : FamilyTree :=
  { tree with ids := tree.ids.reset }

/-- Adds a link if it can be added. -/
def addEdgeIfValid (tree : FamilyTree) (edge : ParentEdge) : FamilyTree :=
  match tree.addEdge edge.parent edge.child with
  | .ok (_, tree) => tree
  | .error _ => tree

/-- The tree of a document. Links that cannot be added are left out. -/
def ofDocument (document : FamilyDocument) (ids : IdSource) : FamilyTree :=
  document.relations.foldl addEdgeIfValid
    { persons := document.people, ids := observeAll ids document.people }

/-- The document of a tree. -/
def toDocument (tree : FamilyTree) : FamilyDocument :=
  ⟨tree.persons, tree.edges⟩

/-- The tree with the people and the links of a phrase in place of its own. -/
def replaceWith (tree : FamilyTree) (graph : CompiledGraph) : FamilyTree :=
  { persons := graph.persons, edges := graph.edges, ids := observeAll tree.ids graph.persons }

/-- Puts a phrase in place of the contents, with identifiers from the tree's own source. -/
def parsePhrase (tree : FamilyTree) (text : String) :
    Except ParseError (CompiledGraph × FamilyTree) := do
  let (graph, ids) ← CompiledGraph.ofPhrase text tree.ids
  return (graph, { tree with ids := ids }.replaceWith graph)

/-- The table of the kept links. -/
def table (tree : FamilyTree) : KinTable :=
  KinTable.ofRecords tree.persons tree.edges

/-- The parents of a person. -/
def parentsOf (tree : FamilyTree) (id : PersonId) : List PersonId :=
  tree.table.parents id

/-- The children of a person. -/
def childrenOf (tree : FamilyTree) (id : PersonId) : List PersonId :=
  tree.table.children id

/-- The graph of the kept links. -/
def graph (tree : FamilyTree) : Pedigree :=
  Pedigree.ofRecords tree.persons tree.edges

/-- What two people of the tree are to each other. -/
def classify (tree : FamilyTree) (options : ClassifyOptions) (a b : PersonId) : Classification :=
  Kindred.classify options tree.persons tree.edges a b

end FamilyTree

end Kindred
