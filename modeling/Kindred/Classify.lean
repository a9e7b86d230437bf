import Kindred.Lexicon
import Kindred.Pedigree.Ascent
import Kindred.Pedigree.NearestCommon
import Kindred.Relation

/-! What two people of the records are to each other. -/

namespace Kindred

/-- How much of the evidence a classification shows. -/
structure ClassifyOptions where
  /-- A chain of more steps than this is not shown. -/
  maxPathDepth : Nat := 64
  /-- Chains are shown at all. -/
  includePaths : Bool := true
deriving DecidableEq, Repr, Inhabited

/-- The people of the records, with the table of the kept links between them. -/
structure Snapshot where
  people : List Person
  table : KinTable

namespace Snapshot

/-- The snapshot of a list of people and a list of links. -/
def ofRecords (people : List Person) (edges : List ParentEdge) : Snapshot :=
  ⟨people, KinTable.ofRecords people edges⟩

/-- The last of the people recorded under an identifier. -/
def person? (people : List Person) (id : PersonId) : Option Person :=
  people.reverse.find? fun person => person.id = id

/-- The name of a person, or the identifier where there is no such person. -/
def nameOf (snapshot : Snapshot) (id : PersonId) : String :=
  ((person? snapshot.people id).map Person.name).getD id.text

/-- The line on which a person descends from an ancestor that many generations up: the one of the first
parent from whom the others lead there. -/
def lineTowards (snapshot : Snapshot) (descendant ancestor : PersonId) (distance : Nat) :
    Option Line :=
  match distance with
  | 0 => none
  | rest + 1 =>
    let leads (parent : PersonId) : Bool :=
      parent = ancestor ||
        (0 < rest && (snapshot.table.ancestorDistances parent).get? ancestor = some rest)
    ((snapshot.table.parents descendant).find? leads).bind fun parent =>
      (person? snapshot.people parent).bind fun person => Line.throughParent person.sex

/-- The evidence of a chain: the names along it. -/
def pathNote (snapshot : Snapshot) (path : List PersonId) : String :=
  "Путь: " ++ " → ".intercalate (path.map snapshot.nameOf)

/-- The chain from a person up to an ancestor, as far as the options let it be shown. -/
def pathEvidence (snapshot : Snapshot) (options : ClassifyOptions)
    (descendant ancestor : PersonId) : List String :=
  if options.includePaths then
    ((snapshot.table.ancestryPath descendant ancestor options.maxPathDepth).map
      snapshot.pathNote).toList
  else
    []

/-- The line of a person, as evidence. -/
def lineEvidence (name : String) (line : Option Line) : List String :=
  (line.map fun line => name ++ ": " ++ Lexicon.lineNote line).toList

/-- The chain and the line of one of two collateral relatives. -/
def branchEvidence (snapshot : Snapshot) (options : ClassifyOptions) (person : Person)
    (ancestor : PersonId) (distance : Nat) : List String :=
  snapshot.pathEvidence options person.id ancestor ++
    lineEvidence person.name (snapshot.lineTowards person.id ancestor distance)

/-- Two things in the opposite order. -/
def swapUnless {α : Type} (keep : Bool) (pair : α × α) : α × α :=
  if keep then pair else (pair.2, pair.1)

/-- An ancestor and a descendant. -/
def directLine (snapshot : Snapshot) (options : ClassifyOptions) (ancestor descendant : Person)
    (distance : Nat) (aIsAncestor : Bool) : Classification :=
  let line := snapshot.lineTowards descendant.id ancestor.id distance
  let roles := swapUnless aIsAncestor (Lexicon.directTerms distance ancestor.sex descendant.sex)
  { roleOfA := roles.1
    roleOfB := roles.2
    relation := .directLine distance aIsAncestor line
    evidence :=
      snapshot.pathEvidence options descendant.id ancestor.id ++
        [s!"Предок: {ancestor.name}, поколений: {distance}"] ++
        lineEvidence descendant.name line }

/-- The relation and the words of two people who stand that far below their nearest common ancestor. -/
def collateralTerms (a b : Sex) (common : CommonAncestor) : (String × String) × Relation :=
  let k := common.distanceA
  let l := common.distanceB
  if k = 1 ∧ l = 1 then
    ((Lexicon.siblingTerm a, Lexicon.siblingTerm b), .siblings common.id)
  else if k = 1 then
    (Lexicon.auntFamilyTerms (l - 1) a b, .auntUncle (l - 1) true common.id)
  else if l = 1 then
    (swapUnless false (Lexicon.auntFamilyTerms (k - 1) b a), .auntUncle (k - 1) false common.id)
  else if k ≤ l then
    (Lexicon.cousinTerms (k - 1) (l - k) a b, .cousins (k - 1) (l - k) common.id)
  else
    (swapUnless false (Lexicon.cousinTerms (l - 1) (k - l) b a), .cousins (l - 1) (k - l) common.id)

/-- The evidence for the numbers of two cousins. -/
def degreeEvidence : Relation → List String
  | .cousins degree removal _ => [s!"Степень: {degree}, удалённость: {removal}"]
  | _ => []

/-- Two people who descend from the same ancestor. -/
def collateral (snapshot : Snapshot) (options : ClassifyOptions) (a b : Person)
    (common : CommonAncestor) : Classification :=
  let (roles, relation) := collateralTerms a.sex b.sex common
  { roleOfA := roles.1
    roleOfB := roles.2
    relation := relation
    evidence :=
      ["Общий предок: " ++ snapshot.nameOf common.id] ++
        snapshot.branchEvidence options a common.id common.distanceA ++
        snapshot.branchEvidence options b common.id common.distanceB ++
        degreeEvidence relation }

end Snapshot

namespace Classification

/-- Two people without a known relation. -/
def notFound : Classification :=
  ⟨Lexicon.notFound, Lexicon.notFound, .notFound, []⟩

/-- A person and the same person. -/
def samePerson : Classification :=
  ⟨Lexicon.samePerson, Lexicon.samePerson, .samePerson, []⟩

end Classification

/-- What two people of the records are to each other. Ancestry is looked for before anything collateral. -/
def classify (options : ClassifyOptions) (people : List Person) (edges : List ParentEdge)
    (a b : PersonId) : Classification :=
  match Snapshot.person? people a, Snapshot.person? people b with
  | some personA, some personB =>
    if a = b then
      .samePerson
    else
      let snapshot := Snapshot.ofRecords people edges
      let ancestorsOfA := snapshot.table.ancestorDistances a
      let ancestorsOfB := snapshot.table.ancestorDistances b
      match ancestorsOfB.get? a with
      | some distance => snapshot.directLine options personA personB distance true
      | none =>
        match ancestorsOfA.get? b with
        | some distance => snapshot.directLine options personB personA distance false
        | none =>
          match CommonAncestor.resolve? ancestorsOfA ancestorsOfB with
          | some common => snapshot.collateral options personA personB common
          | none => .notFound
  | _, _ => .notFound

end Kindred
