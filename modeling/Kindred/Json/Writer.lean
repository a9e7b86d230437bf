import Kindred.Json.Value

/-! Writing a JSON value over several lines. -/

namespace Kindred.Json

/-- A digit in base sixteen. -/
def hexDigit (n : Nat) : Char :=
  if n < 10 then Char.ofNat ('0'.toNat + n) else Char.ofNat ('a'.toNat + n - 10)

/-- How a character stands in a string. Only quotes, backslashes and control characters are escaped. -/
def escapeChar (c : Char) : List Char :=
  match c with
  | '"' => ['\\', '"']
  | '\\' => ['\\', '\\']
  | '\x08' => ['\\', 'b']
  | '\t' => ['\\', 't']
  | '\n' => ['\\', 'n']
  | '\x0c' => ['\\', 'f']
  | '\r' => ['\\', 'r']
  | _ =>
    if c.toNat < 0x20 then ['\\', 'u', '0', '0', hexDigit (c.toNat / 16), hexDigit (c.toNat % 16)]
    else [c]

/-- A string between quotes. -/
def quote (text : String) : List Char :=
  '"' :: text.toList.flatMap escapeChar ++ ['"']

/-- The text of a value without parts. -/
def Scalar.text : Scalar → List Char
  | .null => "null".toList
  | .bool true => "true".toList
  | .bool false => "false".toList
  | .number value => value.text
  | .string value => quote value

/-- A new line with the space of its depth in front: two columns a step. -/
def newLine (depth : Nat) : List Char :=
  '\n' :: List.replicate (2 * depth) ' '

mutual

/-- The text of a value at a depth. A container without parts stays on one line. -/
def Value.textAt (depth : Nat) : Value → List Char
  | .scalar value => value.text
  | .array [] => ['[', ']']
  | .array (item :: rest) =>
    '[' :: newLine (depth + 1) ++ Value.textAt (depth + 1) item ++
      Value.itemsAt (depth + 1) rest ++ newLine depth ++ [']']
  | .object [] => ['\x7b', '\x7d']
  | .object ((key, value) :: rest) =>
    '\x7b' :: newLine (depth + 1) ++ quote key ++ ':' :: ' ' :: Value.textAt (depth + 1) value ++
      Value.membersAt (depth + 1) rest ++ newLine depth ++ ['\x7d']

/-- The text of the items after the first one. -/
def Value.itemsAt (depth : Nat) : List Value → List Char
  | [] => []
  | item :: rest => ',' :: newLine depth ++ Value.textAt depth item ++ Value.itemsAt depth rest

/-- The text of the members after the first one. -/
def Value.membersAt (depth : Nat) : List (String × Value) → List Char
  | [] => []
  | (key, value) :: rest =>
    ',' :: newLine depth ++ quote key ++ ':' :: ' ' :: Value.textAt depth value ++
      Value.membersAt depth rest

end

/-- The text of a value, a part on each line. -/
def Value.pretty (value : Value) : String :=
  String.ofList (value.textAt 0)

end Kindred.Json
