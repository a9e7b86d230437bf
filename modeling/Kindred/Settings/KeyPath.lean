import Kindred.Settings.Datum

/-! Paths of keys into the values of a layer. -/

namespace Kindred

/-- A step from a value to a part of it. -/
inductive PathStep where
  | key (name : String)
  /-- An item of a list. Below zero, it counts from the end. -/
  | item (place : Int)
deriving DecidableEq, Repr

namespace PathStep

/-- The character may stand in a key of a path. -/
def isKeyChar (c : Char) : Bool :=
  c.isAlphanum || c = '_' || c = '-' || c = ' '

/-- A key at the head of a text, and what follows it. -/
def keyAt? (text : List Char) : Option (PathStep × List Char) :=
  let name := text.takeWhile isKeyChar
  if name = [] then none else some (.key (String.ofList name), text.dropWhile isKeyChar)

/-- The number of an item at the head of a text, with its closing bracket, and what follows it. -/
def itemAt? (text : List Char) : Option (PathStep × List Char) :=
  let text := text.dropWhile Yaml.isBlank
  let (isNegative, unsigned) :=
    match text with
    | '-' :: rest => (true, rest)
    | text => (false, text)
  let digits := unsigned.takeWhile Char.isDigit
  let number := if isNegative then '-' :: digits else digits
  match Datum.integerIn? 10 number, (unsigned.dropWhile Char.isDigit).dropWhile Yaml.isBlank with
  | some place, ']' :: rest => some (.item place, rest)
  | _, _ => none

/-- The steps after the first key of a path, at most that many. -/
def stepsAfter? : Nat → List Char → Option (List PathStep)
  | _, [] => some []
  | 0, _ :: _ => none
  | bound + 1, c :: text => do
    let (step, rest) ←
      if c = '.' then keyAt? text
      else if c = '[' then itemAt? text
      else none
    return step :: (← stepsAfter? bound rest)

/-- The steps of a path: keys with dots between them, and numbers of items in brackets. A text that is no path is
one key. -/
def ofText (text : List Char) : List PathStep :=
  let steps? := do
    let (first, rest) ← keyAt? text
    return first :: (← stepsAfter? rest.length rest)
  steps?.getD [.key (String.ofList text)]

end PathStep

namespace Datum

mutual

/-- The table with a value under a key. A table is put over what stands there, entry by entry. What is no table
becomes one. -/
def withEntry (key : String) (value held : Datum) : Datum :=
  match value with
  | .table entries =>
    -- What stands under the key keeps its other entries.
    .table (putEntry key (withEntries entries ((held.entries.lookup key).getD (.table []))) held.entries)
  | value => .table (putEntry key value held.entries)

/-- The table with some more entries. Without any, the value stays as it is. -/
def withEntries : List (String × Datum) → Datum → Datum
  | [], held => held
  | (key, value) :: rest, held => withEntries rest (withEntry key value held)

end

/-- The place in a list that a number stands for. -/
def placeIn (items : List Datum) (place : Int) : Nat :=
  if 0 ≤ place then place.toNat else items.length - place.natAbs

/-- The list with another item at a place. A short list is filled up. -/
def withItem (items : List Datum) (place : Nat) (value : Datum) : List Datum :=
  (items ++ List.replicate (place + 1 - items.length) Datum.nothing).set place value

/-- Puts a value at the end of a path. What is no table or list on the way becomes one. -/
def putAt (value : Datum) : List PathStep → Datum → Datum
  | [], _ => value
  | [.key name], held => withEntry name value held
  | .key name :: path, held =>
    .table (putEntry name (putAt value path ((held.entries.lookup name).getD .nothing)) held.entries)
  | .item number :: path, held =>
    let place := placeIn held.items number
    .list (withItem held.items place (putAt value path (held.items.getD place .nothing)))

end Datum

end Kindred
