import Kindred.Yaml.Scan

/-! The beginnings of tokens. -/

namespace Kindred.Yaml.Scan

/-- A directive. It belongs in front of a document. -/
def fetchDirective (scan : Scan) (rest : List Char) : Except SyntaxError Scan := do
  let scan ← (scan.leaveTo (-1)).dropKey
  let line := rest.takeWhile (!scan.dialect.isBreak ·)
  let token ← readDirective scan.dialect line
  return { scan.putAndSkip token line.length with isKeyAllowed := false }

/-- A mark between documents. -/
def fetchDocumentMark (scan : Scan) (token : Token) : Except SyntaxError Scan := do
  let scan ← (scan.leaveTo (-1)).dropKey
  return { scan.putAndSkip token 2 with isKeyAllowed := false }

/-- An opening bracket. A collection in brackets may be a key. -/
def openFlow (scan : Scan) (token : Token) : Except SyntaxError Scan := do
  let scan ← scan.markKey
  if scan.dialect = .lenient ∧ deepestBracket ≤ scan.outerKeys.length then throw .tooDeep
  return { scan.put token with key := none, outerKeys := scan.key :: scan.outerKeys, isKeyAllowed := true }

/-- A closing bracket. -/
def closeFlow (scan : Scan) (token : Token) : Except SyntaxError Scan := do
  let scan ← scan.dropKey
  let scan := { scan.put token with isKeyAllowed := false }
  match scan.outerKeys with
  | [] => return scan
  | key :: outerKeys => return { scan with key, outerKeys }

/-- A comma between brackets. -/
def fetchComma (scan : Scan) : Except SyntaxError Scan := do
  let scan ← scan.dropKey
  return { scan.put .flowEntry with isKeyAllowed := true }

/-- The dash of an item. No item begins between brackets. -/
def fetchDash (scan : Scan) : Except SyntaxError Scan := do
  if scan.isInFlow ∨ !scan.isKeyAllowed then throw .misplaced
  let scan ← (scan.enter scan.column scan.tokens.length .blockSequenceStart).dropKey
  return { scan.put .blockEntry with isKeyAllowed := true }

/-- The question mark in front of a key. -/
def fetchKey (scan : Scan) : Except SyntaxError Scan := do
  if !scan.isInFlow ∧ !scan.isKeyAllowed then throw .misplaced
  let scan ← (scan.enter scan.column scan.tokens.length .blockMappingStart).dropKey
  return { scan.put .key with isKeyAllowed := !scan.isInFlow }

/-- The colon in front of a value. What stands in front of it on its line becomes a key. -/
def fetchValue (scan : Scan) : Except SyntaxError Scan := do
  match scan.key with
  | some key =>
    -- The marks of the key and of its mapping go in front of what has been put down since.
    let scan := (scan.insert key.before [.key]).enter key.column key.before .blockMappingStart
    return { scan.put .value with key := none, isKeyAllowed := false }
  | none =>
    -- The key has an indicator of its own, or it is missing.
    if !scan.isInFlow ∧ !scan.isKeyAllowed then throw .misplaced
    let scan := scan.enter scan.column scan.tokens.length .blockMappingStart
    return { scan.put .value with isKeyAllowed := !scan.isInFlow }

/-- An anchor or an alias. -/
def fetchAnchor (scan : Scan) (token : String → Token) (rest : List Char) : Except SyntaxError Scan := do
  let scan ← scan.markKey
  match anchorName? scan.dialect rest with
  | some name => return { scan.putAndSkip (token name) name.length with isKeyAllowed := false }
  | none => throw .badName

/-- A tag. -/
def fetchTag (scan : Scan) (rest : List Char) : Except SyntaxError Scan := do
  let scan ← scan.markKey
  let (tag, length) ← readTag scan.dialect scan.isInFlow rest
  return { scan.putAndSkip (.tag tag) length with isKeyAllowed := false }

/-- A block scalar. Its indentation counts from that of the collection around it. -/
def beginBlock (scan : Scan) (style : Style) (rest : List Char) : Except SyntaxError Scan := do
  let scan ← match scan.dialect with
    | .strict => scan.dropKey
    | .lenient => scan.markKey
  match readBlockHeader? (rest.takeWhile (!scan.dialect.isBreak ·)) with
  | some (chomp, more) =>
    -- Without a number in the head, the first line will tell.
    let indent := if more = 0 then 0 else scan.indent.toNat + more
    return { scan with mode := .blockHeader { style, chomp, indent }, isKeyAllowed := true }
  | none => throw .badBlockHeader

/-- A scalar between quotes. -/
def beginQuoted (scan : Scan) (isDouble : Bool) : Except SyntaxError Scan := do
  return { ← scan.markKey with mode := .quoted isDouble [] .none, isKeyAllowed := false }

/-- A scalar without quotes. Where nothing else fits, it may begin with a tab. -/
def beginPlain (scan : Scan) (c : Char) : Except SyntaxError Scan := do
  let mode := if isBlank c then Mode.plain [] (.blanks [c]) else .plain [c] .none
  return { ← scan.markKey with mode, isKeyAllowed := false }

/-- A question mark stands in front of a key. -/
def isKeyMark (scan : Scan) (rest : List Char) : Bool :=
  scan.dialect.endsWord rest || (scan.dialect = .strict && scan.isInFlow)

/-- A colon stands in front of a value. -/
def isValueMark (scan : Scan) (rest : List Char) : Bool :=
  scan.dialect.endsWord rest ||
    (scan.isInFlow &&
      match scan.dialect with
      | .strict => true
      | .lenient => rest.head?.any isFlowMark || scan.quoteEnd = some scan.index)

/-- No token begins with the character. -/
def beginsNothing (scan : Scan) (c : Char) : Bool :=
  match scan.dialect with
  | .strict => ['%', '@', '`', '|', '>', '\t'].contains c
  | .lenient => ['%', '@', '`'].contains c

/-- Reads the first character of a token. -/
def fetch (scan : Scan) (c : Char) (rest : List Char) : Except SyntaxError Scan :=
  if scan.column = 0 ∧ c = '%' then scan.fetchDirective rest
  else if scan.isAtDocumentMark c rest then
    scan.fetchDocumentMark (if c = '-' then .documentStart else .documentEnd)
  else
    match c with
    | '[' => scan.openFlow .flowSequenceStart
    | '\x7b' => scan.openFlow .flowMappingStart
    | ']' => scan.closeFlow .flowSequenceEnd
    | '\x7d' => scan.closeFlow .flowMappingEnd
    | ',' => scan.fetchComma
    | '*' => scan.fetchAnchor .alias rest
    | '&' => scan.fetchAnchor .anchor rest
    | '!' => scan.fetchTag rest
    | '\'' => scan.beginQuoted false
    | '"' => scan.beginQuoted true
    | _ =>
      if c = '-' ∧ scan.dialect.endsWord rest then scan.fetchDash
      else if c = '?' ∧ scan.isKeyMark rest then scan.fetchKey
      else if c = ':' ∧ scan.isValueMark rest then scan.fetchValue
      else if c = '|' ∧ !scan.isInFlow then scan.beginBlock .literal rest
      else if c = '>' ∧ !scan.isInFlow then scan.beginBlock .folded rest
      else if scan.beginsNothing c then .error (.badStart c)
      else scan.beginPlain c

/-- The character stands between tokens and means nothing. A tab does so where no key may begin. -/
def isPassedOver (scan : Scan) (c : Char) : Bool :=
  c = ' ' || (c = '\t' && (scan.isInFlow || !scan.isKeyAllowed)) ||
    (c = '\ufeff' && scan.dialect = .strict && scan.column = 0)

/-- Reads a character between tokens. -/
def stepBetween (scan : Scan) (c : Char) (rest : List Char) : Except SyntaxError Scan :=
  if scan.isPassedOver c then .ok { scan with mode := .between }
  else if scan.dialect.isBreak c then
    .ok { scan with mode := .between, isKeyAllowed := scan.isKeyAllowed || !scan.isInFlow }
  else if c = '#' then .ok { scan with mode := .comment }
  else do
    -- A token begins here: what is further to the right has ended.
    let scan ← scan.dropPastKeys
    (scan.leaveTo scan.column).fetch c rest

end Kindred.Yaml.Scan
