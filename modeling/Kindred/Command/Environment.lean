import Kindred.Text.Alphanumeric
import Kindred.Text.Blank
import Kindred.Text.Parts

/-! The variables of the environment, and the file that adds to them. -/

namespace Kindred

/-- Environment by name, each name once. -/
abbrev Environment := List (String × String)

namespace Environment

/-- What a reference to a variable stands for: a variable, or else an earlier line of the file, or nothing. -/
def meaning (environment earlier : Environment) (name : String) : List Char :=
  (((environment.lookup name).or (earlier.lookup name)).getD "").toList

/-- Adds a variable, unless there is one of that name. -/
def define (environment : Environment) (name value : String) : Environment :=
  if (environment.lookup name).isSome then environment else environment ++ [(name, value)]

end Environment

/-- What the reader of a value stands in. -/
inductive ValueMode where
  | bare
  | double
  | single
  /-- After a backslash. -/
  | escape (isDouble : Bool)
  /-- After a dollar, inside double quotes or not; the name of the variable so far. -/
  | reference (isDouble : Bool) (name : List Char)
  /-- Between braces after a dollar. -/
  | braced (isDouble : Bool) (name : List Char)
  /-- After a blank, where only a comment may follow. -/
  | ended
  | comment
deriving DecidableEq, Repr

namespace ValueMode

/-- Inside double quotes or not. -/
def around (isDouble : Bool) : ValueMode :=
  if isDouble then .double else .bare

/-- Reads a character of a value. Gives the mode after it, and what it adds to the value. -/
def step (meaning : String → List Char) (mode : ValueMode) (c : Char) : Option (ValueMode × List Char) :=
  match mode with
  | .comment => some (.comment, [])
  | .ended =>
    if c = ' ' ∨ c = '\t' then some (.ended, [])
    else if c = '#' then some (.comment, [])
    else none
  | .escape isDouble =>
    if ['\\', '\'', '"', '$', ' '].contains c then some (around isDouble, [c])
    else if c = 'n' then some (around isDouble, ['\n'])
    else none
  | .single => if c = '\'' then some (.bare, []) else some (.single, [c])
  | .reference isDouble name =>
    if Text.isAlphanumeric c then some (.reference isDouble (name ++ [c]), [])
    else if c = '\x7b' ∧ name = [] then some (.braced isDouble [], [])
    else if c = '$' then some (.reference isDouble [], meaning (String.ofList name))
    else some (around isDouble, meaning (String.ofList name) ++ [c])
  | .braced isDouble name =>
    if c = '\x7d' then some (around isDouble, meaning (String.ofList name))
    else some (.braced isDouble (name ++ [c]), [])
  | .double =>
    if c = '$' then some (.reference true [], [])
    else if c = '"' then some (.bare, [])
    else if c = '\\' then some (.escape true, [])
    else some (.double, [c])
  | .bare =>
    if c = '$' then some (.reference false [], [])
    else if c = '\'' then some (.single, [])
    else if c = '"' then some (.double, [])
    else if c = '\\' then some (.escape false, [])
    else if c = ' ' ∨ c = '\t' then some (.ended, [])
    else some (.bare, [c])

/-- What the end of the value adds to it. Quotes and braces must be closed. -/
def finish (meaning : String → List Char) : ValueMode → Option (List Char)
  | .reference false name => some (meaning (String.ofList name))
  | .bare | .ended | .comment | .escape false => some []
  | .single | .double | .escape true | .reference true _ | .braced .. => none

/-- Reads a value to its end. -/
def run (meaning : String → List Char) (mode : ValueMode) : List Char → Option (List Char)
  | [] => mode.finish meaning
  | c :: rest => do
    let (mode, added) ← mode.step meaning c
    return added ++ (← run meaning mode rest)

end ValueMode

namespace Environment

/-- The character may begin a name. -/
def beginsName (c : Char) : Bool :=
  ('a' ≤ c && c ≤ 'z') || ('A' ≤ c && c ≤ 'Z') || c = '_'

/-- The character may stand in a name. -/
def isNameChar (c : Char) : Bool :=
  beginsName c || c.isDigit || c = '.'

/-- A name at the head of a text, and what follows it and the blanks after it. -/
def name? (text : List Char) : Option (List Char × List Char) :=
  if text.head?.any beginsName then
    some (text.takeWhile isNameChar, (text.dropWhile isNameChar).dropWhile Text.isBlank)
  else
    none

/-- What follows an equals sign. -/
def afterEquals? : List Char → Option (List Char)
  | '=' :: rest => some rest
  | _ => none

/-- The name that a line defines, and the text of its value. The word export may stand in front. -/
def definition? (line : List Char) : Option (List Char × List Char) := do
  let (name, rest) ← name? line
  match afterEquals? rest with
  | some value => some (name, value)
  | none =>
    if name = "export".toList then
      let (name, rest) ← name? rest
      return (name, ← afterEquals? rest)
    else
      none

/-- Adds the lines of a file to the variables, up to the first line that is not to be read. -/
def addLines (environment earlier : Environment) : List (List Char) → Environment
  | [] => environment
  | line :: rest =>
    let line := Text.trim line
    if line = [] ∨ line.head? = some '#' then
      addLines environment earlier rest
    else
      match definition? line with
      | none => environment
      | some (name, text) =>
        let name := String.ofList name
        let text := text.dropWhile Text.isBlank
        let value :=
          if text = [] ∨ text.head? = some '#' then some []
          else ValueMode.run (meaning environment earlier) .bare text
        match value with
        | none => environment
        | some value =>
          let value := String.ofList value
          addLines (environment.define name value) ((name, value) :: earlier) rest

/-- Adds the definitions of a file to the variables. Those that are there stay as they are. -/
def addFile (environment : Environment) (text : String) : Environment :=
  addLines environment [] (Text.partsAt '\n' text.toList)

end Environment

end Kindred
