import Kindred.Json.Token

/-! Reading a JSON value. Of the members with one key the last one stays. -/

namespace Kindred.Json

/-- A container around the value being read, with what stands in it so far, newest item first. -/
inductive Frame where
  | array (items : List Value)
  | object (members : List (String × Value)) (key : String)

/-- What may come next, inside the containers of the list, innermost first. -/
inductive Reading where
  | wantValue (around : List Frame)
  /-- After the mark that opens an array. -/
  | wantItem (around : List Frame)
  /-- Before a key. Only the first one may be missing. -/
  | wantKey (isFirst : Bool) (members : List (String × Value)) (around : List Frame)
  | wantColon (members : List (String × Value)) (key : String) (around : List Frame)
  /-- After a whole value. -/
  | whole (value : Value) (around : List Frame)

namespace Reading

/-- How many containers may stand around a value. -/
def maxDepth : Nat :=
  127

/-- Reads the beginning of a value. -/
def beginValue (around : List Frame) : Token → Except SyntaxError Reading
  | .scalar value => .ok (.whole (.scalar value) around)
  | .openArray => if around.length < maxDepth then .ok (.wantItem around) else .error .tooDeep
  | .openObject =>
    if around.length < maxDepth then .ok (.wantKey true [] around) else .error .tooDeep
  | .closeArray | .closeObject | .comma | .colon => .error .misplaced

/-- Reads what follows a whole value. -/
def goOn (value : Value) : List Frame → Token → Except SyntaxError Reading
  | .array items :: around, .comma => .ok (.wantValue (.array (value :: items) :: around))
  | .array items :: around, .closeArray => .ok (.whole (.array (value :: items).reverse) around)
  | .object members key :: around, .comma =>
    .ok (.wantKey false (Value.putMember key value members) around)
  | .object members key :: around, .closeObject =>
    .ok (.whole (.object (Value.putMember key value members)) around)
  | _, _ => .error .misplaced

/-- Reads one token. -/
def next : Reading → Token → Except SyntaxError Reading
  | .wantValue around, token => beginValue around token
  | .wantItem around, .closeArray => .ok (.whole (.array []) around)
  | .wantItem around, token => beginValue (.array [] :: around) token
  | .wantKey true members around, .closeObject => .ok (.whole (.object members) around)
  | .wantKey _ members around, .scalar (.string key) => .ok (.wantColon members key around)
  | .wantKey .., _ => .error .misplaced
  | .wantColon members key around, .colon => .ok (.wantValue (.object members key :: around))
  | .wantColon .., _ => .error .misplaced
  | .whole value around, token => goOn value around token

/-- Reads a list of tokens. -/
def run (reading : Reading) : List Token → Except SyntaxError Reading
  | [] => .ok reading
  | token :: rest =>
    match next reading token with
    | .ok reading => run reading rest
    | .error error => .error error

end Reading

/-- The value that a whole text is. -/
def Value.ofText (text : String) : Except SyntaxError Value := do
  let tokens ← Token.ofText text.toList
  match ← (Reading.wantValue []).run tokens with
  | .whole value [] => return value
  | _ => throw .unfinished

end Kindred.Json
