import Kindred.Number.Digits
import Kindred.Text.Alphanumeric
import Kindred.Text.Blank
import Kindred.Text.Parts

/-! The directives that choose what is logged. -/

namespace Kindred

/-- Why a text chooses nothing. -/
inductive LogFilterError where
  | badDirective
  | badLevel
deriving DecidableEq, Repr

/-- The messages for a text that chooses nothing, the nearest first. -/
def LogFilterError.causes : LogFilterError → List String
  | .badDirective => ["invalid filter directive"]
  | .badLevel =>
    let message := "error parsing level filter: expected one of \"off\", \"error\", \"warn\", " ++
      "\"info\", \"debug\", \"trace\", or a number 0-5"
    [message, message]

namespace LogFilter

/-- What the reader of a directive stands in. -/
inductive Mode where
  | start
  /-- In a name, which may be that of a level. -/
  | name
  | span
  | field (isEmpty : Bool)
  | fields
  /-- After the span, where only a level may follow. -/
  | afterSpan
deriving DecidableEq, Repr

/-- The names of the levels. -/
def levelNames : List String :=
  ["off", "error", "warn", "info", "debug", "trace"]

/-- The text is a level: a name in any case, a number up to five, or nothing. -/
def isLevel (text : List Char) : Bool :=
  text.isEmpty || levelNames.contains (String.ofList (text.map Char.toLower)) ||
    (readCount? text).any fun count => count.toNat ≤ 5

/-- The character may begin a directive that begins with no span. -/
def beginsDirective (c : Char) : Bool :=
  c = '-' || c = ':' || c = '_' || Text.isAlphanumeric c

/-- The directive may end here, or a level may follow. -/
def Mode.isWhole : Mode → Bool
  | .name | .afterSpan => true
  | .start | .span | .field _ | .fields => false

/-- Reads a character of a directive before its level. -/
def step (mode : Mode) (c : Char) : Option Mode :=
  match mode with
  | .start => if c = '[' then some .span else if beginsDirective c then some .name else none
  | .name => if c = '[' then some .span else some .name
  | .span =>
    if c = ']' then some .afterSpan else if c = '\x7b' then some (.field true) else some .span
  | .field isEmpty =>
    if c = '\x7d' then if isEmpty then none else some .fields else some (.field false)
  | .fields => if c = ']' then some .afterSpan else none
  | .afterSpan => none

/-- What is left of a text after its first bytes. -/
def dropBytes : Nat → List Char → List Char
  | _, [] => []
  | count, c :: rest => if count = 0 then c :: rest else dropBytes (count - c.utf8Size) rest

/-- Reads a trimmed directive to its end, after that many bytes of it. Its level is looked up at the same place
of the whole text, so a blank in front lets no level be found. -/
def run (whole : List Char) (mode : Mode) (place : Nat) : List Char → Except LogFilterError Unit
  | [] => if mode.isWhole then .ok () else .error .badDirective
  | c :: rest =>
    let next := place + c.utf8Size
    -- Whatever follows the equals sign is the level.
    if c = '=' ∧ mode.isWhole then
      if isLevel (dropBytes next whole) then .ok () else .error .badLevel
    else
      match step mode c with
      | some mode => run whole mode next rest
      | none => .error .badDirective

/-- Looks at a list of directives. Nothing between two commas is no directive. -/
def check (text : String) : Except LogFilterError Unit :=
  ((Text.partsAt ',' text.toList).filter (· ≠ [])).forM fun part =>
    run part .start 0 (Text.trim part)

/-- Looks at the directives of the environment, or else at those of the settings. -/
def choose (fromEnvironment : Option String) (level : String) : Except LogFilterError Unit :=
  match fromEnvironment.map check with
  | some (.ok _) => .ok ()
  | _ => check level

end LogFilter

end Kindred
