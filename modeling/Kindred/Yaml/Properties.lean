import Kindred.Number.Digits
import Kindred.Yaml.Dialect
import Kindred.Yaml.Token

/-! The parts of a YAML text that can be read at a glance: anchors, tags, directives, and the heads of block
scalars. Each reader gives what it read and how many characters that took. -/

namespace Kindred.Yaml

/-- The characters that may follow the name of an anchor, besides white space. -/
def followsAnchor (c : Char) : Bool :=
  ['?', ':', ',', ']', '\x7d', '%', '@', '`'].contains c

/-- The name of an anchor after its mark. -/
def anchorName? (dialect : Dialect) (text : List Char) : Option String :=
  let name := text.takeWhile isNameChar
  let rest := text.dropWhile isNameChar
  if name ≠ [] ∧ (dialect.endsWord rest ∨ rest.head?.any followsAnchor) then some (String.ofList name)
  else none

/-- The characters of the name of a tag. Commas and square brackets do not always belong to it. -/
def isTagChar (withFlowMarks : Bool) (c : Char) : Bool :=
  isNameChar c ||
    [';', '/', '?', ':', '@', '&', '=', '+', '$', '.', '!', '~', '*', '\'', '(', ')'].contains c ||
    (withFlowMarks && [',', '[', ']'].contains c)

/-- The name of a tag at the head of a text, and how long it is there. A percent sign stands before the code of a
character. -/
def tagName (withFlowMarks : Bool) : List Char → Except SyntaxError (List Char × Nat)
  | '%' :: high :: low :: rest =>
    match digitValue? 16 high, digitValue? 16 low with
    | some high, some low => do
      let (name, length) ← tagName withFlowMarks rest
      return (Char.ofNat (16 * high + low) :: name, length + 3)
    | _, _ => .error .badTag
  | '%' :: _ => .error .badTag
  | c :: rest =>
    if isTagChar withFlowMarks c then do
      let (name, length) ← tagName withFlowMarks rest
      return (c :: name, length + 1)
    else
      return ([], 0)
  | [] => return ([], 0)

/-- The name of a tag, which must have at least one character. -/
def nonemptyTagName (withFlowMarks : Bool) (text : List Char) : Except SyntaxError (List Char × Nat) := do
  let (name, length) ← tagName withFlowMarks text
  if length = 0 then throw .badTag else return (name, length)

/-- What follows the first exclamation mark of a handle: a name and, for most handles, another mark. -/
def handleTail (text : List Char) : List Char :=
  let name := text.takeWhile isNameChar
  if (text.dropWhile isNameChar).head? = some '!' then name ++ ['!'] else name

/-- A tag after its exclamation mark, and how many characters follow the mark. -/
def readTag (dialect : Dialect) (isInFlow : Bool) (text : List Char) : Except SyntaxError (Tag × Nat) := do
  let withFlowMarks := dialect = .lenient
  let (tag, length) ← match text with
    | '<' :: rest => do
      let (name, length) ← nonemptyTagName true rest
      if (rest.drop length).head? = some '>' then pure (Tag.mk "" (String.ofList name), length + 2)
      else throw .badTag
    | text => do
      let tail := handleTail text
      if tail.getLast? = some '!' then
        let (name, length) ← nonemptyTagName withFlowMarks (text.drop tail.length)
        pure (Tag.mk (String.ofList ('!' :: tail)) (String.ofList name), tail.length + length)
      else
        let (name, length) ← tagName withFlowMarks text
        if length = 0 then pure (Tag.mk "" "!", 0) else pure (Tag.mk "!" (String.ofList name), length)
  let rest := text.drop length
  let followsFlowMark := dialect = .strict ∧ isInFlow ∧ rest.head? = some ','
  if dialect.endsWord rest ∨ followsFlowMark then return (tag, length) else throw .badTag

/-- Nothing but blanks and a comment is left of a line. -/
def isBareLine (line : List Char) : Bool :=
  match line.dropWhile isBlank with
  | [] => true
  | c :: _ => c = '#'

/-- The digits of a version at the head of a text, at most nine. -/
def versionDigits? (text : List Char) : Option (List Char) :=
  let digits := text.takeWhile Char.isDigit
  if digits.isEmpty ∨ 9 < digits.length then none else some digits

/-- A directive that names the version. A strict one names one that is known. -/
def readVersion (dialect : Dialect) (line : List Char) : Except SyntaxError Token :=
  let text := line.dropWhile isBlank
  match versionDigits? text with
  | none => .error .badDirective
  | some major =>
    match text.drop major.length with
    | '.' :: rest =>
      match versionDigits? rest with
      | none => .error .badDirective
      | some minor =>
        let number (digits : List Char) : List Char := digits.dropWhile (· = '0')
        let isKnown := number major = ['1'] ∧ (number minor = ['1'] ∨ number minor = ['2'])
        if !isBareLine (rest.drop minor.length) then .error .badDirective
        else if dialect = .strict ∧ !isKnown then .error .badDirective
        else .ok .version
    | _ => .error .badDirective

/-- A directive that names a handle for tags. -/
def readHandle (dialect : Dialect) (line : List Char) : Except SyntaxError Token := do
  match line.dropWhile isBlank with
  | '!' :: text =>
    let tail := handleTail text
    let rest := text.drop tail.length
    if tail ≠ [] ∧ tail.getLast? ≠ some '!' then throw .badDirective
    if dialect = .strict ∧ !rest.head?.any isBlank then throw .badDirective
    let rest := rest.dropWhile isBlank
    let (_, length) ← nonemptyTagName true rest
    let rest := rest.drop length
    if dialect.endsWord rest ∧ isBareLine rest then return .handle (String.ofList ('!' :: tail))
    else throw .badDirective
  | _ => throw .badDirective

/-- A directive after its percent sign, given to the end of its line. -/
def readDirective (dialect : Dialect) (line : List Char) : Except SyntaxError Token :=
  let name := line.takeWhile isNameChar
  let rest := line.dropWhile isNameChar
  if name = [] ∨ !dialect.endsWord rest then .error .badDirective
  else if name = "YAML".toList then readVersion dialect rest
  else if name = "TAG".toList then readHandle dialect rest
  else if dialect = .lenient then .ok (.handle "")
  else .error .badDirective

/-- What becomes of the line breaks at the end of a block scalar. -/
inductive Chomp where
  /-- One of them stays. -/
  | clip
  | strip
  | keep
deriving DecidableEq, Repr

/-- The mark for what becomes of the line breaks at the end. -/
def Chomp.ofMark? : Char → Option Chomp
  | '+' => some .keep
  | '-' => some .strip
  | _ => none

/-- A mark for line breaks at the head of a text, and what follows it. -/
def chompAt (text : List Char) : Chomp × List Char :=
  match text.head?.bind Chomp.ofMark? with
  | some chomp => (chomp, text.drop 1)
  | none => (.clip, text)

/-- A number for the indentation at the head of a text, and what follows it. Without one it is zero. -/
def indentAt? (text : List Char) : Option (Nat × List Char) :=
  match text with
  | '0' :: _ => none
  | c :: rest =>
    match digitValue? 10 c with
    | some digit => some (digit, rest)
    | none => some (0, text)
  | [] => some (0, [])

/-- The head of a block scalar after its first mark, to the end of the line. -/
def readBlockHeader? (line : List Char) : Option (Chomp × Nat) := do
  match line.head?.bind Chomp.ofMark? with
  | some chomp =>
    let (indent, rest) ← indentAt? (line.drop 1)
    if isBareLine rest then some (chomp, indent) else none
  | none =>
    let (indent, rest) ← indentAt? line
    let (chomp, rest) := if indent = 0 then (Chomp.clip, rest) else chompAt rest
    if isBareLine rest then some (chomp, indent) else none

end Kindred.Yaml
