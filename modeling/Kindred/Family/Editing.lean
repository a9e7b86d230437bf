import Kindred.Family.Tree

/-! Editing a family in place: each step writes into the tree at once, and a failure takes nothing back. -/

namespace Kindred

/-- Work on a tree that may fail. What has been written before a failure stays written. -/
abbrev Editing (ε : Type) := EStateM ε FamilyTree

namespace Editing

/-- Goes on with a result, or fails with the error in its place. -/
def ofResult {ε α : Type} : Except ε α → Editing ε α
  | .ok value => return value
  | .error error => throw error

/-- The place of the first person with an identifier. -/
def place? (id : PersonId) : Editing TreeError (Option Nat) :=
  return (← get).persons.findIdx? fun person => person.id = id

/-- Fails unless somebody has the identifier. -/
def require (id : PersonId) : Editing TreeError Unit := do
  unless (← get).contains id do
    throw (.unknownPerson id)

/-- Adds a link between two people. Tells whether it was new. -/
def addEdge (parent child : PersonId) : Editing TreeError Bool := do
  let edge : ParentEdge := ⟨parent, child⟩
  if edge.isSelfLoop then
    throw (.selfLoop parent)
  require parent
  require child
  if (← get).edges.contains edge then
    return false
  modify fun tree => { tree with edges := tree.edges ++ [edge] }
  return true

/-- Removes a link. Tells whether there are fewer links then. -/
def removeEdge (parent child : PersonId) : Editing TreeError Bool := do
  let before := (← get).edges.length
  modify fun tree => { tree with edges := tree.edges.filter (· != ⟨parent, child⟩) }
  return (← get).edges.length != before

/-- Removes the first person with an identifier, and then all links of that identifier. -/
def removePerson (id : PersonId) : Editing TreeError (Option Person) := do
  match ← place? id with
  | none => return none
  | some place =>
    let person := (← get).persons[place]?
    modify fun tree => { tree with persons := tree.persons.eraseIdx place }
    modify fun tree => { tree with edges := tree.edges.filter fun edge => !edge.touches id }
    return person

/-- Changes the first person with an identifier. -/
def changePerson (id : PersonId) (change : Person → Person) : Editing TreeError Unit := do
  match ← place? id with
  | none => throw (.unknownPerson id)
  | some place => modify fun tree => { tree with persons := tree.persons.modify place change }

/-- Gives a person another name. -/
def rename (id : PersonId) (name : String) : Editing TreeError Unit :=
  changePerson id fun person => { person with name := name }

/-- Writes a note at a person, or takes the note away. -/
def setNote (id : PersonId) (note : Option String) : Editing TreeError Unit :=
  changePerson id fun person => { person with note := note }

/-- Puts the tree of a text in place of the contents. -/
def load (text : String) (source : IdSource) : Editing SchemaError Unit := do
  let document ← ofResult (FamilyDocument.ofText text)
  set (FamilyTree.ofDocument document source)

/-- Compiles a phrase, with identifiers drawn from the tree's own source. -/
def compile (text : String) : Editing ParseError CompiledGraph := do
  let sentence ← ofResult (Sentence.ofTokens (Token.ofPhrase text))
  modifyGet fun tree =>
    let (graph, ids) := CompiledGraph.ofSentence sentence tree.ids
    (graph, { tree with ids := ids })

/-- Compiles a phrase and puts it in place of the contents. -/
def parse (text : String) : Editing ParseError CompiledGraph := do
  let graph ← compile text
  modify fun tree => tree.replaceWith graph
  return graph

end Editing

end Kindred
