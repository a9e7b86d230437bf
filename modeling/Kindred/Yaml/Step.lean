import Kindred.Yaml.Fetch

/-! Reading the tokens of a YAML text, one character after the other. -/

namespace Kindred.Yaml

/-- The character that a letter stands for after a backslash. -/
def escaped? (dialect : Dialect) : Char → Option Char
  | '0' => some '\x00'
  | 'a' => some '\x07'
  | 'b' => some '\x08'
  | 't' | '\t' => some '\t'
  | 'n' => some '\n'
  | 'v' => some '\x0b'
  | 'f' => some '\x0c'
  | 'r' => some '\r'
  | 'e' => some '\x1b'
  | ' ' => some ' '
  | '"' => some '"'
  | '\\' => some '\\'
  | 'N' => some '\x85'
  | '_' => some '\xa0'
  | 'L' => some '\u2028'
  | 'P' => some '\u2029'
  | '/' => if dialect = .strict then some '/' else none
  | '\'' => if dialect = .lenient then some '\'' else none
  | _ => none

/-- How many digits follow a letter after a backslash. -/
def hexCount? : Char → Option Nat
  | 'x' => some 2
  | 'u' => some 4
  | 'U' => some 8
  | _ => none

namespace Scan

/-- Puts down the plain scalar that has been read. A key may begin on the line after it. -/
def endPlain (scan : Scan) (read : List Char) (gap : Gap) : Scan :=
  { scan.put (.scalar .plain (String.ofList read.reverse)) with
    isKeyAllowed := scan.isKeyAllowed || gap.hasBreak }

/-- After white space, a plain scalar does not go on at the character. -/
def endsAfterGap (scan : Scan) (c : Char) (rest : List Char) : Bool :=
  (!scan.isInFlow && (scan.column : Int) < scan.indent + 1) || c = '#' || scan.isAtDocumentMark c rest

/-- A plain scalar ends in front of the character. -/
def endsPlain (scan : Scan) (c : Char) (rest : List Char) : Bool :=
  (c = ':' &&
    (scan.dialect.endsWord rest ||
      (scan.isInFlow && scan.dialect = .lenient && rest.head?.any isFlowMark))) ||
    (scan.isInFlow && isFlowMark c)

/-- A colon in a plain scalar between brackets does not stand in front of a mark of a strict text. -/
def isBadColon (scan : Scan) (c : Char) (rest : List Char) : Bool :=
  c = ':' && scan.isInFlow && scan.dialect = .strict &&
    rest.head?.any fun next => isFlowMark next || next = '?'

/-- Reads a character of a plain scalar. -/
def stepPlain (scan : Scan) (read : List Char) (gap : Gap) (c : Char) (rest : List Char) :
    Except SyntaxError Scan :=
  if isBlank c then
    if gap.hasBreak ∧ c = '\t' ∧ (scan.column : Int) < scan.indent + 1 then .error .tabInIndentation
    else .ok { scan with mode := .plain read (gap.withBlank c) }
  else if scan.dialect.isBreak c then .ok { scan with mode := .plain read (gap.withBreak c) }
  -- Where the scalar ends, the character begins something else.
  else if !gap.isNone ∧ scan.endsAfterGap c rest then (scan.endPlain read gap).stepBetween c rest
  else if scan.isBadColon c rest then .error .misplaced
  else if scan.endsPlain c rest then (scan.endPlain read gap).stepBetween c rest
  else .ok { scan with mode := .plain (c :: (gap.text ++ read)) .none }

/-- Puts down the quoted scalar that has been read. -/
def endQuoted (scan : Scan) (read : List Char) : Scan :=
  { scan.put (.scalar .quoted (String.ofList read.reverse)) with quoteEnd := some (scan.index + 1) }

/-- Reads a character between quotes. -/
def stepQuoted (scan : Scan) (isDouble : Bool) (read : List Char) (gap : Gap) (c : Char) (rest : List Char) :
    Except SyntaxError Scan :=
  if isBlank c then .ok { scan with mode := .quoted isDouble read (gap.withBlank c) }
  else if scan.dialect.isBreak c then .ok { scan with mode := .quoted isDouble read (gap.withBreak c) }
  else if !gap.isNone ∧ scan.isAtDocumentMark c rest then .error .documentMarkInside
  else
    -- The white space belongs to the scalar, folded if there is a line break in it.
    let read := gap.text ++ read
    if isDouble ∧ c = '\\' then .ok { scan with mode := .escape read }
    else if isDouble ∧ c = '"' then .ok (scan.endQuoted read)
    else if !isDouble ∧ c = '\'' then
      .ok (if rest.head? = some '\'' then { scan with mode := .secondQuote read } else scan.endQuoted read)
    else .ok { scan with mode := .quoted isDouble (c :: read) .none }

/-- Reads the character after a backslash. At the end of a line it takes the line break away. -/
def stepEscape (scan : Scan) (read : List Char) (c : Char) : Except SyntaxError Scan :=
  if scan.dialect.isBreak c then .ok { scan with mode := .quoted true read (.breaks none []) }
  else
    match hexCount? c, escaped? scan.dialect c with
    | some count, _ => .ok { scan with mode := .hex read count 0 }
    | none, some meant => .ok { scan with mode := .quoted true (meant :: read) .none }
    | none, none => .error .badEscape

/-- Reads a digit of a character's number, where that many digits are left. -/
def stepHex (scan : Scan) (read : List Char) (count value : Nat) (c : Char) : Except SyntaxError Scan :=
  match digitValue? 16 c with
  | none => .error .badEscape
  | some digit =>
    let value := 16 * value + digit
    if 1 < count then .ok { scan with mode := .hex read (count - 1) value }
    else if value.isValidChar then
      .ok { scan with mode := .quoted true (Char.ofNat value :: read) .none }
    else .error .badEscape

/-- Puts down the block scalar that has been read. -/
def endBlock (scan : Scan) (scalar : BlockScalar) : Scan :=
  scan.put (.scalar scalar.style (String.ofList scalar.text))

/-- The column of the lines of a block scalar: as its head tells, or else as far to the right as the widest of the
lines in front of the first one, but further than the collection around it. -/
def blockColumn (scan : Scan) (scalar : BlockScalar) : Nat :=
  if scalar.indent ≠ 0 then scalar.indent
  else max (max scalar.widest scan.column) (max (scan.indent + 1).toNat 1)

/-- Reads a character in front of a line of a block scalar. -/
def stepBlockIndent (scan : Scan) (scalar : BlockScalar) (c : Char) (rest : List Char) :
    Except SyntaxError Scan :=
  let isIndentation := scalar.indent = 0 ∨ scan.column < scalar.indent
  if isIndentation ∧ c = ' ' then .ok { scan with mode := .blockIndent scalar }
  else if isIndentation ∧ c = '\t' then .error .tabInIndentation
  else if scan.dialect.isBreak c then
    .ok { scan with mode := .blockIndent { scalar with
      widest := max scalar.widest scan.column
      emptyLines := breakText c :: scalar.emptyLines } }
  else
    -- From the first line on, the column is fixed.
    let scalar := { scalar with indent := scan.blockColumn scalar }
    if scan.column = scalar.indent then .ok { scan with mode := .blockLine (scalar.beginLine c) }
    else (scan.endBlock scalar).stepBetween c rest

/-- Reads a character on a line of a block scalar. -/
def stepBlockLine (scan : Scan) (scalar : BlockScalar) (c : Char) : Scan :=
  if scan.dialect.isBreak c then
    { scan with mode := .blockIndent { scalar with lastBreak := [breakText c] } }
  else
    { scan with mode := .blockLine { scalar with read := c :: scalar.read } }

/-- Reads one character, before the given rest. -/
def step (scan : Scan) (c : Char) (rest : List Char) : Except SyntaxError Scan :=
  match scan.mode with
  | .between => scan.stepBetween c rest
  | .comment => if scan.dialect.isBreak c then scan.stepBetween c rest else .ok scan
  | .skip count => .ok { scan with mode := if count ≤ 1 then .between else .skip (count - 1) }
  | .plain read gap => scan.stepPlain read gap c rest
  | .quoted isDouble read gap => scan.stepQuoted isDouble read gap c rest
  | .secondQuote read => .ok { scan with mode := .quoted false (c :: read) .none }
  | .escape read => scan.stepEscape read c
  | .hex read count value => scan.stepHex read count value c
  | .blockHeader scalar =>
    .ok (if scan.dialect.isBreak c then { scan with mode := .blockIndent scalar } else scan)
  | .blockIndent scalar => scan.stepBlockIndent scalar c rest
  | .blockLine scalar => .ok (scan.stepBlockLine scalar c)

/-- Reads a text to its end. -/
def run (scan : Scan) : List Char → Except SyntaxError Scan
  | [] => .ok scan
  | c :: rest => do run ((← scan.step c rest).advance c) rest

/-- Puts down what is being read at the end of the text. -/
def finishScalar (scan : Scan) : Except SyntaxError Scan :=
  match scan.mode with
  | .between | .comment | .skip _ => .ok scan
  | .plain read gap => .ok (scan.endPlain read gap)
  | .blockHeader scalar | .blockIndent scalar | .blockLine scalar => .ok (scan.endBlock scalar)
  | .quoted .. | .secondQuote _ | .escape _ | .hex .. => .error .unfinished

/-- Ends all block collections at the end of the text. -/
def finish (scan : Scan) : Except SyntaxError (List Token) := do
  let scan ← (← scan.finishScalar).dropPastKeys
  let scan ← (scan.leaveTo (-1)).dropKey
  return scan.tokens.reverse

end Scan

/-- The tokens of a text. -/
def Token.ofText (dialect : Dialect) (text : List Char) : Except SyntaxError (List Token) :=
  match dialect.prepare? text with
  | some text => do (← Scan.run { dialect } text).finish
  | none => .error .controlCharacter

end Kindred.Yaml
