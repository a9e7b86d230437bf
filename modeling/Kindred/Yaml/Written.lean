import Kindred.Yaml.Dialect
import Kindred.Yaml.Scalar

/-! How a text is written as a scalar so that it reads back as that text. -/

namespace Kindred.Yaml

/-- The character needs no escape. -/
def isPrintable (c : Char) : Bool :=
  let code := c.toNat
  code = 0xA || (0x20 ≤ code && code ≤ 0x7E) || (0xA0 ≤ code && code ≤ 0xFFFD && code ≠ 0xFEFF) ||
    0x10000 ≤ code

/-- The text ends here, or a blank or the end of a line follows. -/
def endsPlainWord : List Char → Bool
  | [] => true
  | c :: _ => c = ' ' || c = '\t' || isBreak c

/-- A mark that no plain scalar begins with, or that needs a character after it. -/
def beginsAsMark : List Char → Bool
  | [] => false
  | c :: rest =>
    ['#', ',', '[', ']', '\x7b', '\x7d', '&', '*', '!', '|', '>', '\'', '"', '%', '@', '`'].contains c ||
      (['-', '?', ':'].contains c && endsPlainWord rest)

/-- A colon before a blank, or a number sign after one, ends a plain scalar. -/
def hasInnerMark : List Char → Bool
  | [] => false
  | c :: rest =>
    (c = ':' && endsPlainWord rest) ||
      ((c = ' ' || c = '\t' || isBreak c) && rest.head? = some '#') || hasInnerMark rest

/-- The text may stand without quotes. -/
def canBePlain (text : List Char) : Bool :=
  !text.isEmpty && !text.any isBreak && !beginsAsMark text && !hasInnerMark text &&
    text.head? ≠ some ' ' && text.getLast? ≠ some ' ' &&
    text.take 3 ≠ ['-', '-', '-'] && text.take 3 ≠ ['.', '.', '.']

/-- A code in base sixteen with that many digits. -/
def hexCode (width code : Nat) : List Char :=
  let digits := (Nat.toDigits 16 code).map Char.toUpper
  List.replicate (width - digits.length) '0' ++ digits

/-- How a character stands between double quotes. -/
def escapedChar (c : Char) : List Char :=
  match c with
  | '"' => ['\\', '"']
  | '\\' => ['\\', '\\']
  | '\x00' => ['\\', '0']
  | '\x07' => ['\\', 'a']
  | '\x08' => ['\\', 'b']
  | '\t' => ['\\', 't']
  | '\n' => ['\\', 'n']
  | '\x0b' => ['\\', 'v']
  | '\x0c' => ['\\', 'f']
  | '\r' => ['\\', 'r']
  | '\x1b' => ['\\', 'e']
  | '\x85' => ['\\', 'N']
  | '\u2028' => ['\\', 'L']
  | '\u2029' => ['\\', 'P']
  | _ =>
    if isPrintable c then [c]
    else if c.toNat ≤ 0xFF then '\\' :: 'x' :: hexCode 2 c.toNat
    else if c.toNat ≤ 0xFFFF then '\\' :: 'u' :: hexCode 4 c.toNat
    else '\\' :: 'U' :: hexCode 8 c.toNat

/-- A quote is written twice between single quotes. -/
def doubledQuote (c : Char) : List Char :=
  if c = '\'' then ['\'', '\''] else [c]

/-- A character that one test holds for stands in front of one that another test holds for. -/
def hasPair (first second : Char → Bool) : List Char → Bool
  | c :: next :: rest => (first c && second next) || hasPair first second (next :: rest)
  | _ => false

/-- A space stands at the end of a line. -/
def hasBlankAtEnd (text : List Char) : Bool :=
  hasPair (· = ' ') isBreak text

/-- A space stands at the head of a line that is not the first. -/
def hasBlankAtHead (text : List Char) : Bool :=
  hasPair isBreak (· = ' ') text

/-- The text may stand between single quotes. -/
def canBeSingle (text : List Char) : Bool :=
  text.all isPrintable && !text.contains '\n' && !hasBlankAtEnd text && !hasBlankAtHead text

/-- The text may stand as a literal block. Only what has line breaks does. -/
def canBeLiteral (text : List Char) : Bool :=
  text.contains '\n' && text.all isPrintable && !hasBlankAtEnd text && text.getLast? ≠ some ' '

/-- The column of the lines of a scalar. -/
def lineIndent : List Char :=
  List.replicate 4 ' '

/-- The lines of a scalar, each at its column, where each character is written as given. A separator of lines
stands in the text itself. -/
def indented (write : Char → List Char) (atHead : Bool) : List Char → List Char
  | [] => []
  | c :: rest =>
    if isBreak c then c :: indented write true rest
    else (if atHead then lineIndent else []) ++ write c ++ indented write false rest

/-- The text between single quotes. -/
def single (text : List Char) : List Char :=
  let tail := if text.getLast?.any isBreak then lineIndent else []
  '\'' :: indented doubledQuote false text ++ tail ++ ['\'']

/-- The text between double quotes. -/
def double (text : List Char) : List Char :=
  '"' :: text.flatMap escapedChar ++ ['"']

/-- The head of a literal block: the width of its indentation where that does not show, and what becomes of the
line breaks at its end. -/
def literalHead (text : List Char) : List Char :=
  let width := if text.head?.any fun c => c = ' ' || isBreak c then ['2'] else []
  let chomp :=
    match text.reverse with
    | last :: before =>
      if !isBreak last then ['-'] else if before.head?.all isBreak then ['+'] else []
    | [] => ['-']
  '|' :: width ++ chomp

/-- The text as a literal block, with the end of its last line. -/
def literal (text : List Char) : List Char :=
  let tail := if text.getLast?.any isBreak then [] else ['\n']
  literalHead text ++ '\n' :: indented (fun c => [c]) true text ++ tail

/-- A text as a scalar, with the end of its line, in the first of these forms that reads back as the text: a
literal block, plain, between single quotes, or between double quotes. -/
def written (text : String) : String :=
  let chars := text.toList
  String.ofList <|
    if canBeLiteral chars then literal chars
    else if !canBeSingle chars then double chars ++ ['\n']
    else if canBePlain chars ∧ !standsForOther text then chars ++ ['\n']
    else single chars ++ ['\n']

end Kindred.Yaml
