import Kindred.Yaml.Folding

/-! The state of a reader of tokens: the open indentations, and the places where a key may have begun. -/

namespace Kindred.Yaml

/-- What the reader stands in. What has been read of a scalar is kept newest first. -/
inductive Mode where
  | between
  | comment
  /-- The rest of a token that has been put down already. -/
  | skip (count : Nat)
  | plain (read : List Char) (gap : Gap)
  | quoted (isDouble : Bool) (read : List Char) (gap : Gap)
  /-- After the first of two single quotes that stand for one. -/
  | secondQuote (read : List Char)
  | escape (read : List Char)
  | hex (read : List Char) (count value : Nat)
  /-- On the first line of a block scalar. -/
  | blockHeader (scalar : BlockScalar)
  /-- In front of a line of a block scalar. -/
  | blockIndent (scalar : BlockScalar)
  | blockLine (scalar : BlockScalar)
deriving DecidableEq, Repr

/-- A place where a key may have begun. Only a colon tells, and it must follow on the same line. -/
structure KeyPlace where
  /-- How many tokens stand in front of it. -/
  before : Nat
  line : Nat
  column : Nat
  index : Nat
  /-- Nothing but a key may stand there. -/
  isRequired : Bool
deriving DecidableEq, Repr

/-- How far the reader has come. -/
structure Scan where
  dialect : Dialect
  mode : Mode := .between
  line : Nat := 0
  column : Nat := 0
  index : Nat := 0
  /-- The column of the innermost block collection. -/
  indent : Int := -1
  /-- The columns of the block collections around it. -/
  outerIndents : List Int := []
  /-- Where a key may have begun, between the innermost brackets. -/
  key : Option KeyPlace := none
  /-- The same for everything around those brackets. -/
  outerKeys : List (Option KeyPlace) := []
  isKeyAllowed : Bool := true
  /-- The end of the last quoted scalar. -/
  quoteEnd : Option Nat := none
  /-- The tokens so far, newest first. -/
  tokens : List Token := []
deriving Repr

namespace Scan

/-- How far a colon may be from the beginning of its key. -/
def longestKey : Nat :=
  1024

/-- How many brackets may be open in a lenient text. -/
def deepestBracket : Nat :=
  255

/-- The reader is between brackets. -/
def isInFlow (scan : Scan) : Bool :=
  !scan.outerKeys.isEmpty

/-- Puts down a token. -/
def put (scan : Scan) (token : Token) : Scan :=
  { scan with tokens := token :: scan.tokens, mode := .between }

/-- Puts down a token of which that many characters follow. -/
def putAndSkip (scan : Scan) (token : Token) (count : Nat) : Scan :=
  { scan.put token with mode := if count = 0 then .between else .skip count }

/-- Puts down tokens, newest first, behind the first ones. -/
def insert (scan : Scan) (before : Nat) (tokens : List Token) : Scan :=
  -- The newest tokens stand first, so the place is counted from the other end.
  let newer := scan.tokens.length - before
  { scan with tokens := scan.tokens.take newer ++ tokens ++ scan.tokens.drop newer }

/-- A key cannot have begun at the place any more. -/
def isPast (scan : Scan) (key : KeyPlace) : Bool :=
  key.line < scan.line || key.index + longestKey < scan.index

/-- The place of a key if it may still be one. -/
def stillKey (scan : Scan) : Option KeyPlace → Except SyntaxError (Option KeyPlace)
  | none => .ok none
  | some key =>
    if !scan.isPast key then .ok (some key)
    else if key.isRequired then .error .missingColon
    else .ok none

/-- Forgets the places where no key can have begun any more. -/
def dropPastKeys (scan : Scan) : Except SyntaxError Scan := do
  return { scan with key := ← scan.stillKey scan.key, outerKeys := ← scan.outerKeys.mapM scan.stillKey }

/-- Forgets the innermost place of a key. -/
def dropKey (scan : Scan) : Except SyntaxError Scan :=
  -- A key that must be there has had its last chance of a colon.
  if scan.key.any KeyPlace.isRequired then .error .missingColon else .ok { scan with key := none }

/-- Nothing but a key may stand in the column of the innermost block collection: outside brackets in a strict
text, inside them in a lenient one. -/
def needsKey (scan : Scan) : Bool :=
  scan.indent = scan.column &&
    match scan.dialect with
    | .strict => !scan.isInFlow
    | .lenient => scan.isInFlow

/-- A key may begin at the reader's place. -/
def markKey (scan : Scan) : Except SyntaxError Scan :=
  if scan.isKeyAllowed then do
    let scan ← scan.dropKey
    let key := KeyPlace.mk scan.tokens.length scan.line scan.column scan.index scan.needsKey
    return { scan with key := some key }
  else
    return scan

/-- Begins a block collection at a column, further to the right than the one around it. Its mark stands behind
the first tokens. -/
def enter (scan : Scan) (column before : Nat) (mark : Token) : Scan :=
  -- Between brackets, columns mean nothing.
  if !scan.isInFlow ∧ scan.indent < column then
    { scan.insert before [mark] with indent := column, outerIndents := scan.indent :: scan.outerIndents }
  else
    scan

/-- Ends the innermost collection at a column, and those around it that begin further to the right. -/
def leave (column : Int) (indent : Int) (tokens : List Token) : List Int → Int × List Int × List Token
  | [] => (indent, [], tokens)
  | outer :: around =>
    -- Each collection that is left puts down the mark of its end.
    if column < indent then leave column outer (.blockEnd :: tokens) around
    else (indent, outer :: around, tokens)

/-- Ends the block collections that begin further to the right than a column. -/
def leaveTo (scan : Scan) (column : Int) : Scan :=
  if scan.isInFlow then
    scan
  else
    let (indent, outerIndents, tokens) := leave column scan.indent scan.tokens scan.outerIndents
    { scan with indent, outerIndents, tokens }

/-- The place after a character. -/
def advance (scan : Scan) (c : Char) : Scan :=
  if scan.dialect.beginsLine c then
    { scan with line := scan.line + 1, column := 0, index := scan.index + 1 }
  else
    { scan with column := scan.column + 1, index := scan.index + 1 }

/-- A mark of three characters between documents stands here. -/
def isAtDocumentMark (scan : Scan) (c : Char) (rest : List Char) : Bool :=
  scan.column = 0 && (c = '-' || c = '.') && rest.take 2 = [c, c] && scan.dialect.endsWord (rest.drop 2)

end Scan

end Kindred.Yaml
