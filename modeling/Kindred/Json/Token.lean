import Kindred.Json.Value

/-! The marks, words and strings that a JSON text is made of. -/

namespace Kindred.Json

/-- Why a text is no JSON. -/
inductive SyntaxError where
  | badWord (word : String)
  | numberTooLarge (word : String)
  | controlInString
  | badEscape
  | loneSurrogate
  | misplaced
  | tooDeep
  | unfinished
deriving DecidableEq, Repr

/-- The message of an error. -/
def SyntaxError.message : SyntaxError → String
  | .badWord word => "no value: " ++ word
  | .numberTooLarge word => "number out of range: " ++ word
  | .controlInString => "control character inside a string"
  | .badEscape => "invalid escape"
  | .loneSurrogate => "lone surrogate in an escape"
  | .misplaced => "value or mark at a wrong place"
  | .tooDeep => "recursion limit exceeded"
  | .unfinished => "unexpected end of text"

/-- A mark, or a value without parts. -/
inductive Token where
  | openArray
  | closeArray
  | openObject
  | closeObject
  | comma
  | colon
  | scalar (value : Scalar)
deriving DecidableEq, Repr

/-- Where in a text the reader stands. What has been read of a word or a string is kept newest first. -/
inductive Scan where
  | between
  | word (read : List Char)
  | inString (read : List Char)
  | escape (read : List Char)
  /-- Among the digits of an escape, the second of a pair if a first half is given. -/
  | hex (read : List Char) (high : Option Nat) (count : Nat) (value : Nat)
  /-- Before the escape that must follow the first half of a pair. -/
  | pair (read : List Char) (high : Nat)
  | pairMark (read : List Char) (high : Nat)

namespace Token

/-- The mark that a character is. -/
def mark? : Char → Option Token
  | '[' => some .openArray
  | ']' => some .closeArray
  | '\x7b' => some .openObject
  | '\x7d' => some .closeObject
  | ',' => some .comma
  | ':' => some .colon
  | _ => none

/-- The white space of JSON. -/
def isSpace (c : Char) : Bool :=
  c = ' ' || c = '\n' || c = '\t' || c = '\r'

/-- The value of a word. -/
def ofWord (word : List Char) : Except SyntaxError Token :=
  if word = "null".toList then .ok (.scalar .null)
  else if word = "true".toList then .ok (.scalar (.bool true))
  else if word = "false".toList then .ok (.scalar (.bool false))
  else
    match Number.literal? word with
    | none => .error (.badWord (String.ofList word))
    | some literal =>
      match Number.ofLiteral? literal with
      | some number => .ok (.scalar (.number number))
      | none => .error (.numberTooLarge (String.ofList word))

/-- The character that a letter stands for after a backslash. -/
def escaped? : Char → Option Char
  | '"' => some '"'
  | '\\' => some '\\'
  | '/' => some '/'
  | 'b' => some '\x08'
  | 'f' => some '\x0c'
  | 'n' => some '\n'
  | 'r' => some '\r'
  | 't' => some '\t'
  | _ => none

/-- The number begins a pair that stands for one character. -/
def isHighHalf (value : Nat) : Bool :=
  0xD800 ≤ value && value ≤ 0xDBFF

/-- The number ends a pair that stands for one character. -/
def isLowHalf (value : Nat) : Bool :=
  0xDC00 ≤ value && value ≤ 0xDFFF

/-- Goes on after the four digits of an escape. -/
def endHex (read : List Char) (high : Option Nat) (value : Nat) : Except SyntaxError Scan :=
  match high with
  | some high =>
    if isLowHalf value then
      .ok (.inString (Char.ofNat (0x10000 + (high - 0xD800) * 0x400 + (value - 0xDC00)) :: read))
    else .error .loneSurrogate
  | none =>
    if isHighHalf value then .ok (.pair read value)
    else if isLowHalf value then .error .loneSurrogate
    else .ok (.inString (Char.ofNat value :: read))

/-- Reads one character that begins or follows a mark, a word or a string. -/
def scanBetween (c : Char) : Scan × List Token :=
  if isSpace c then (.between, [])
  else if c = '"' then (.inString [], [])
  else
    match mark? c with
    | some token => (.between, [token])
    | none => (.word [c], [])

/-- Reads one character. The tokens are those that end before it or with it. -/
def scan (state : Scan) (c : Char) : Except SyntaxError (Scan × List Token) :=
  match state with
  | .between => .ok (scanBetween c)
  | .word read =>
    if isSpace c || c = '"' || (mark? c).isSome then do
      let token ← ofWord read.reverse
      let (state, tokens) := scanBetween c
      return (state, token :: tokens)
    else
      .ok (.word (c :: read), [])
  | .inString read =>
    if c = '"' then .ok (.between, [.scalar (.string (String.ofList read.reverse))])
    else if c = '\\' then .ok (.escape read, [])
    else if c.toNat < 0x20 then .error .controlInString
    else .ok (.inString (c :: read), [])
  | .escape read =>
    if c = 'u' then .ok (.hex read none 0 0, [])
    else
      match escaped? c with
      | some plain => .ok (.inString (plain :: read), [])
      | none => .error .badEscape
  | .hex read high count value =>
    match digitValue? 16 c with
    | none => .error .badEscape
    | some digit =>
      let value := 16 * value + digit
      if count = 3 then do
        return (← endHex read high value, [])
      else
        .ok (.hex read high (count + 1) value, [])
  | .pair read high => if c = '\\' then .ok (.pairMark read high, []) else .error .loneSurrogate
  | .pairMark read high => if c = 'u' then .ok (.hex read (some high) 0 0, []) else .error .loneSurrogate

/-- The token that the end of a text ends. -/
def scanEnd : Scan → Except SyntaxError (List Token)
  | .between => .ok []
  | .word read => do return [← ofWord read.reverse]
  | _ => .error .unfinished

/-- The tokens of a text that goes on from a state, after the ones already found, newest first. -/
def ofTextFrom (state : Scan) (found : List Token) : List Char → Except SyntaxError (List Token)
  | [] =>
    match scanEnd state with
    | .ok tokens => .ok (found.reverse ++ tokens)
    | .error error => .error error
  | c :: rest =>
    match scan state c with
    | .ok (state, tokens) => ofTextFrom state (tokens.reverse ++ found) rest
    | .error error => .error error

/-- The tokens of a text. -/
def ofText (text : List Char) : Except SyntaxError (List Token) :=
  ofTextFrom .between [] text

end Token

end Kindred.Json
