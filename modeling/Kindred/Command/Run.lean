import Kindred.Command.Error
import Kindred.Command.Help
import Kindred.Command.Environment
import Kindred.Family.Tree
import Kindred.Pedigree.Statistics
import Kindred.Report.Render

/-! What the commands do, over any carrier of effects. -/

namespace Kindred

/-- The terminal of the program, and its clock. -/
class Terminal (m : Type → Type) where
  print : String → m Unit
  /-- The next line of the input with the mark that ends it. At the end of the input it is empty. -/
  readLine : m String
  now : m Timestamp

export Terminal (print readLine)

/-- How a run ends. -/
inductive Outcome where
  | success
  | failure (error : CommandError)
  | misuse (error : UsageError)
deriving DecidableEq, Repr

/-- The status that the program leaves behind. -/
def Outcome.exitCode : Outcome → Nat
  | .success => 0
  | .failure _ => 1
  | .misuse _ => 2

/-- What the program prints beside its output. -/
def Outcome.errorText : Outcome → String
  | .success => ""
  | .failure error => error.text
  | .misuse error => "error: " ++ error.message ++ "\n\n" ++ Help.text none

namespace Command

variable {m : Type → Type} [Monad m] [FileAccess m] [Terminal m]

/-- A step of a command, which can fail. -/
abbrev Action (m : Type → Type) := ExceptT CommandError m

/-- Lets a step fail with the error of a part of it. -/
def orFail {ε α : Type} (wrap : ε → CommandError) (result : Except ε α) : Action m α :=
  match result with
  | .ok value => return value
  | .error error => throw (wrap error)

/-- Prints a line. -/
def printLine (text : String) : Action m Unit :=
  ExceptT.lift (print (text ++ "\n"))

/-- The format that a word means, or that of the settings. -/
def formatOf (word : Option String) (settings : Settings) : Action m OutputFormat :=
  orFail .format ((word.map OutputFormat.ofWord).getD settings.outputFormat)

/-- The person of a tree that a key means. -/
def personOf (tree : FamilyTree) (key : String) : Action m Person :=
  match (tree.resolve? key).bind tree.person? with
  | some person => return person
  | none => throw (.unknownPerson key)

/-- A report on two people of a tree. -/
def reportOn (tree : FamilyTree) (settings : Settings) (a b : Person) (phrase : Option String) :
    Action m KinshipReport := do
  let time ← ExceptT.lift Terminal.now
  return ⟨time, a, b, tree.classify settings.classifyOptions a.id b.id, phrase⟩

/-- Writes a report to a file, or prints it. -/
def deliver (report : KinshipReport) (format : OutputFormat) (path : Option String) : Action m Unit :=
  match path with
  | some path => do orFail (.reportFile path) (← ExceptT.lift (writeFile path (report.render format)))
  | none => printLine (report.render format)

/-- Tells what two people of a family file are to each other. -/
def classifyFile (settings : Settings) (file a b : String) (format reportFile : Option String) :
    Action m Unit := do
  let format ← formatOf format settings
  let document ← orFail .familyLoad (← ExceptT.lift (FamilyDocument.load file))
  let tree := FamilyTree.ofDocument document settings.idSource
  let a ← personOf tree a
  let b ← personOf tree b
  deliver (← reportOn tree settings a b none) format reportFile

/-- Prints the people of a tree. -/
def printPeople (tree : FamilyTree) : Action m Unit := do
  printLine "Persons:"
  for person in tree.persons do
    printLine s!"  {person.id.text} {person.name} ({person.sex.name})"

/-- The two roots of a phrase as people of a tree, when the phrase has both. -/
def rootsOf? (tree : FamilyTree) (graph : CompiledGraph) : Option (Person × Person) := do
  return (← tree.person? (← graph.rootHe), ← tree.person? (← graph.rootShe))

/-- Saves the family of a phrase, if a path is given. -/
def saveFamily (graph : CompiledGraph) (path : Option String) : Action m Unit :=
  match path with
  | some path => do
    orFail .familySave (← ExceptT.lift ((FamilyDocument.mk graph.persons graph.edges).save path))
    printLine ("Family graph exported to " ++ Text.quoted path)
  | none => return ()

/-- Tells what the two people of a phrase are to each other. -/
def compilePhrase (settings : Settings) (phrase : String) (format familyFile : Option String) :
    Action m Unit := do
  let format ← formatOf format settings
  let (graph, ids) ← orFail (.phrase phrase) (CompiledGraph.ofPhrase phrase settings.idSource)
  saveFamily graph familyFile
  let tree := FamilyTree.replaceWith { ids := ids } graph
  match rootsOf? tree graph with
  | some (he, she) => deliver (← reportOn tree settings he she (some phrase)) format none
  | none => printPeople tree

/-- The lines with the numbers of a graph. -/
def statisticsLines (numbers : Statistics) : List String :=
  ["📊 Family Statistics:", s!"  Persons: {numbers.persons}", s!"  Relations: {numbers.links}",
    s!"  Founders: {numbers.founders}", s!"  Childless: {numbers.childless}",
    "  Average degree: " ++ numbers.averageDegree.fixed 2]

/-- Looks at a family file: its form, its numbers and its cycles. -/
def validateFile (file : String) : Action m Unit := do
  let document ← orFail .familyLoad (← ExceptT.lift (FamilyDocument.load file))
  printLine s!"✅ Schema valid: {document.people.length} people, {document.relations.length} relations"
  let graph := (FamilyTree.ofDocument document {}).graph
  (statisticsLines graph.statistics).forM printLine
  match graph.cycles with
  | [] => printLine "\n✅ No ancestry cycles found"
  | cycles => do
    for cycle in cycles do
      printLine ("❌ Ancestry cycle: " ++ ", ".intercalate (cycle.map PersonId.text))
    throw (.ancestryCycles cycles.length)

/-- The answer to a question is yes. -/
def isYes (answer : String) : Bool :=
  (Text.lowercase (Text.trim answer.toList)).head? = some 'y'

/-- Asks before a file is written over. -/
def mayWrite (file : String) : Action m Bool := do
  if ← ExceptT.lift (fileExists file) then
    ExceptT.lift (print "Overwrite existing file? (y/N): ")
    return isYes (← ExceptT.lift readLine)
  else
    return true

/-- Writes the usual settings to a file. -/
def initFile (file : String) : Action m Unit := do
  if ← mayWrite file then
    orFail (.settingsFile file) (← ExceptT.lift (Settings.save {} file))
    printLine ("Configuration file created: " ++ Text.quoted file)

/-- Carries out a command. -/
def run (settings : Settings) : Command → Action m Unit
  | .classify file a b format reportFile => classifyFile settings file a b format reportFile
  | .parse phrase format familyFile => compilePhrase settings phrase format familyFile
  | .validate file => validateFile file
  | .init file => initFile file

end Command

namespace Invocation

variable {m : Type → Type} [Monad m] [FileAccess m] [Terminal m]

/-- Loads the settings, looks at the choice of what is logged, and carries out the command. -/
def run (invocation : Invocation) (environment : Environment) : Command.Action m Unit := do
  let settings ← Command.orFail .settings (← ExceptT.lift (Settings.load invocation.settingsFile environment))
  Command.orFail .logFilter
    (LogFilter.choose (environment.lookup "RUST_LOG") (invocation.logLevel.getD settings.logLevel))
  invocation.command.run settings

end Invocation

section Program

variable {m : Type → Type} [Monad m] [FileAccess m] [Terminal m]

/-- The variables, and those of the first of some files that is there. -/
def withEnvironmentFile (environment : Environment) (paths : List String) : m Environment := do
  match ← Settings.firstText? paths with
  | some (_, text) => return environment.addFile text
  | none => return environment

/-- Runs the program on its arguments, with the variables of its environment. More of these may stand in a
file. -/
def runProgram (arguments : List String) (environment : Environment) (environmentFiles : List String) :
    m Outcome := do
  let environment ← withEnvironmentFile environment environmentFiles
  match Request.ofArguments arguments with
  | .error error => return .misuse error
  | .ok (.help command) => print (Help.text command); return .success
  | .ok .version => print versionText; return .success
  | .ok (.run invocation) =>
    match ← (invocation.run environment).run with
    | .ok _ => return .success
    | .error error => return .failure error

end Program

end Kindred
