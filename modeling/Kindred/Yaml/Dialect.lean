/-! The two ways of reading YAML, and the characters that they tell apart. -/

namespace Kindred.Yaml

/-- How closely a text must keep to the rules. -/
inductive Dialect where
  /-- No control characters, no entry without a key, no directive that is not known. -/
  | strict
  /-- Most of what can be understood is taken. -/
  | lenient
deriving DecidableEq, Repr

/-- A space or a tab. -/
def isBlank (c : Char) : Bool :=
  c = ' ' || c = '\t'

/-- The marks between the parts of a collection in brackets. -/
def isFlowMark (c : Char) : Bool :=
  [',', '[', ']', '\x7b', '\x7d'].contains c

/-- The characters of the names of anchors, handles and directives. -/
def isNameChar (c : Char) : Bool :=
  c.isAlphanum || c = '_' || c = '-'

/-- The characters that end a line for a careful reader. -/
def isBreak (c : Char) : Bool :=
  ['\n', '\r', '\x85', '\u2028', '\u2029'].contains c

/-- What a line break is in a text. Only the separators of lines and of paragraphs stay as they are. -/
def breakText (c : Char) : Char :=
  if c = '\u2028' || c = '\u2029' then c else '\n'

/-- One line feed in place of a carriage return and a line feed. -/
def joinReturns : List Char → List Char
  | [] => []
  | '\r' :: '\n' :: rest => '\n' :: joinReturns rest
  | c :: rest => c :: joinReturns rest

namespace Dialect

/-- The characters that end a line. -/
def isBreak (dialect : Dialect) (c : Char) : Bool :=
  match dialect with
  | .strict => Yaml.isBreak c
  | .lenient => c = '\n' || c = '\r'

/-- The next character is in the first column. A carriage return alone does not always bring it there. -/
def beginsLine (dialect : Dialect) (c : Char) : Bool :=
  match dialect with
  | .strict => Yaml.isBreak c
  | .lenient => c = '\n'

/-- The text ends here, or a blank or a line break follows. -/
def endsWord (dialect : Dialect) : List Char → Bool
  | [] => true
  | c :: _ => isBlank c || dialect.isBreak c

/-- The characters that may stand in a strict text. -/
def isAllowed (c : Char) : Bool :=
  let code := c.toNat
  code = 0x9 || code = 0xA || code = 0xD || (0x20 ≤ code && code ≤ 0x7E) || code = 0x85 ||
    (0xA0 ≤ code && code ≤ 0xFFFD) || 0x10000 ≤ code

/-- The part of a text that is read, with single line breaks. A lenient text ends where a null stands. -/
def prepare? (dialect : Dialect) (text : List Char) : Option (List Char) :=
  match dialect with
  | .strict => if text.all isAllowed then some (joinReturns text) else none
  | .lenient => some (joinReturns (text.takeWhile (· ≠ '\x00')))

end Dialect

end Kindred.Yaml
