import Kindred.IdSource
import Kindred.Lexicon
import Kindred.Phrase.Grammar

/-! The people and the links that a sentence tells of. -/

namespace Kindred

/-- The names under which people have been entered, each with an identifier. -/
structure SymbolTable where
  entries : List (String × PersonId) := []
deriving DecidableEq, Repr, Inhabited

namespace SymbolTable

/-- The identifier under a label. -/
def get? (table : SymbolTable) (label : String) : Option PersonId :=
  table.entries.lookup label

/-- The table with an identifier under a label, in place of the one that stood there. -/
def insert (table : SymbolTable) (label : String) (id : PersonId) : SymbolTable :=
  ⟨(label, id) :: table.entries.filter fun entry => entry.1 != label⟩

/-- The number of labels. -/
def size (table : SymbolTable) : Nat :=
  table.entries.length

/-- The table has no label. -/
def isEmpty (table : SymbolTable) : Bool :=
  table.entries.isEmpty

end SymbolTable

/-- The name of the man that a sentence speaks of. -/
def heLabel : String :=
  "Он"

/-- The name of the woman that a sentence speaks of. -/
def sheLabel : String :=
  "Она"

/-- The name and the sex of the parents that two siblings share. -/
def sharedParents : List (String × Sex) :=
  [("Общий отец", .male), ("Общая мать", .female)]

namespace Pronoun

/-- The name and the sex of the person that a pronoun stands for. -/
def root : Pronoun → String × Sex
  | .his => (heLabel, .male)
  | .her => (sheLabel, .female)

/-- The pronoun at the beginning of a name. -/
def possessive : Pronoun → String
  | .his => "Его"
  | .her => "Её"

end Pronoun

/-- The name of a parent. -/
def Step.parentNoun : Step → String
  | .mother => "мать"
  | .father => "отец"

/-- The name of a parent's parent. -/
def Step.grandparentNoun : Step → String
  | .mother => "бабушка"
  | .father => "дедушка"

/-- The name and the sex of the person that some steps lead to, from one of the two roots. -/
def ancestorLabel (pronoun : Pronoun) : List Step → String × Sex
  | [] => pronoun.root
  | [step] => (pronoun.possessive ++ " " ++ step.parentNoun, step.sex)
  | first :: second :: rest =>
    let last := (second :: rest).getLast (List.cons_ne_nil second rest)
    (pronoun.possessive ++ " " ++ last.grandparentNoun ++ " " ++ Lexicon.lineNote first.line,
      last.sex)

/-- What has been made of a sentence so far. -/
structure Draft where
  ids : IdSource
  symbols : SymbolTable := {}
  persons : List Person := []
  edges : List ParentEdge := []
deriving DecidableEq, Repr

namespace Draft

/-- Enters a new person. -/
def fresh (draft : Draft) (label : String) (sex : Sex) : PersonId × Draft :=
  let (id, ids) := draft.ids.draw
  (id, { draft with ids := ids, persons := draft.persons ++ [⟨id, label, sex, none⟩] })

/-- The person under a label, entered on first use. -/
def node (draft : Draft) (label : String) (sex : Sex) : PersonId × Draft :=
  match draft.symbols.get? label with
  | some id => (id, draft)
  | none =>
    let (id, draft) := draft.fresh label sex
    (id, { draft with symbols := draft.symbols.insert label id })

/-- Adds a link once, unless it joins a person to itself. -/
def link (draft : Draft) (parent child : PersonId) : Draft :=
  let edge : ParentEdge := ⟨parent, child⟩
  if edge.isSelfLoop || draft.edges.contains edge then draft
  else { draft with edges := draft.edges ++ [edge] }

/-- Enters the ancestors of a person along the steps that are left, after the ones already gone. -/
def climb (pronoun : Pronoun) (gone : List Step) (current : PersonId) (draft : Draft) :
    List Step → PersonId × Draft
  | [] => (current, draft)
  | step :: rest =>
    let gone := gone ++ [step]
    let (label, sex) := ancestorLabel pronoun gone
    let (ancestor, draft) := draft.node label sex
    climb pronoun gone ancestor (draft.link ancestor current) rest

/-- Enters a relative, with everybody between that one and the root. -/
def chain (draft : Draft) (spec : RelativeSpec) : PersonId × Draft :=
  let (label, sex) := spec.pronoun.root
  let (root, draft) := draft.node label sex
  climb spec.pronoun [] root draft spec.steps

/-- Enters one parent that both siblings share. -/
def shareParent (left right : PersonId) (draft : Draft) (parent : String × Sex) : Draft :=
  let (id, draft) := draft.fresh parent.1 parent.2
  (draft.link id left).link id right

end Draft

/-- Changes the first member of a list that satisfies a condition. -/
def changeFirst {α : Type} (isWanted : α → Bool) (change : α → α) : List α → List α
  | [] => []
  | head :: rest => if isWanted head then change head :: rest else head :: changeFirst isWanted change rest

/-- The people and the links of a sentence, and the two people it starts from. -/
structure CompiledGraph where
  persons : List Person
  edges : List ParentEdge
  rootHe : Option PersonId
  rootShe : Option PersonId
  sentence : Sentence
deriving DecidableEq, Repr

namespace CompiledGraph

/-- The two relatives of a sentence, made siblings by two new parents. A rank is noted at the left one. -/
def ofSentence (sentence : Sentence) (ids : IdSource) : CompiledGraph × IdSource :=
  let (left, draft) := ({ ids := ids } : Draft).chain sentence.left
  let (right, draft) := draft.chain sentence.right
  let draft := sharedParents.foldl (Draft.shareParent left right) draft
  let persons :=
    if sentence.connector.rank.isSome then
      changeFirst (fun person => person.id = left)
        (fun person => { person with note := some sentence.connector.wording }) draft.persons
    else draft.persons
  (⟨persons, draft.edges, draft.symbols.get? heLabel, draft.symbols.get? sheLabel, sentence⟩,
    draft.ids)

/-- The graph of a phrase, with identifiers drawn from a source. A phrase that is no sentence draws none. -/
def ofPhrase (text : String) (ids : IdSource) : Except ParseError (CompiledGraph × IdSource) := do
  let sentence ← Sentence.ofTokens (Token.ofPhrase text)
  return ofSentence sentence ids

/-- The first person of that name. -/
def personNamed? (graph : CompiledGraph) (name : String) : Option Person :=
  graph.persons.find? fun person => person.name = name

end CompiledGraph

end Kindred
