import Kindred.Command.Run
import Kindred.Files.Directory

/-! A session that is held in memory: files, what is typed, and what has been printed. -/

namespace Kindred

/-- The state of a session. -/
structure Session where
  directory : Directory := {}
  /-- What has been typed and not yet read. -/
  input : List Char := []
  output : String := ""
  time : Timestamp := ⟨0, 0⟩
deriving Repr

namespace Session

/-- The first line of a text with the mark that ends it, and the rest. -/
def splitLine : List Char → List Char × List Char
  | [] => ([], [])
  | '\n' :: rest => (['\n'], rest)
  | c :: rest => let (line, left) := splitLine rest; (c :: line, left)

end Session

instance : FileAccess (StateM Session) where
  readFile path := return (← get).directory.read path
  writeFile path text := do
    match (← get).directory.write path text with
    | .ok directory => modify ({ · with directory := directory }); return .ok ()
    | .error error => return .error error
  fileExists path := return (← get).directory.has path

instance : Terminal (StateM Session) where
  print text := modify fun session => { session with output := session.output ++ text }
  readLine := do
    let (line, rest) := Session.splitLine (← get).input
    modify ({ · with input := rest })
    return String.ofList line
  now := return (← get).time

/-- Runs the program in a session. -/
def Session.runProgram (session : Session) (arguments : List String) (environment : Environment) :
    Outcome × Session :=
  (Kindred.runProgram arguments environment [".env"] : StateM Session Outcome).run session

end Kindred
