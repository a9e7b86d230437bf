import Kindred.Settings.File
import Kindred.Text.Lowercase

/-! The values of layers: what the text of a file or of a variable suggests, and what a setting takes from it. -/

namespace Kindred

open Yaml

/-- A value of a layer, of the kind that its text suggests. -/
inductive Datum where
  | nothing
  | flag (value : Bool)
  | integer (value : Int)
  | real (value : Real)
  | string (value : String)
  | list (items : List Datum)
  | table (entries : List (String × Datum))
deriving Inhabited

namespace Datum

/-- The whole number of a sign and digits in a base. It must have 64 binary digits. -/
def integerIn? (base : Nat) (text : List Char) : Option Int :=
  let (isNegative, digits) := splitSign text
  (digits? base digits).bind fun value =>
    if isNegative then if value ≤ twoTo 63 then some (-(value : Int)) else none
    else if value < twoTo 63 then some (value : Int) else none

/-- The whole number that a plain scalar of a file suggests. -/
def fileInteger? : List Char → Option Int
  | '0' :: 'x' :: digits => integerIn? 16 digits
  | '0' :: 'o' :: digits => integerIn? 8 digits
  | '+' :: digits => integerIn? 10 digits
  | text => integerIn? 10 text

/-- The words for values past all numbers in a file. They cannot be read. -/
def pastNumbers : List String :=
  [".inf", ".Inf", ".INF", "+.inf", "+.Inf", "+.INF", "-.inf", "-.Inf", "-.INF", ".nan", ".NAN"]

/-- What a plain scalar of a file suggests. -/
def ofPlain (text : String) : Except SettingsMisfit Datum :=
  if ["~", "null"].contains text then .ok .nothing
  else if text = "true" then .ok (.flag true)
  else if text = "false" then .ok (.flag false)
  else if pastNumbers.contains text then .error (.badValue text)
  else
    match fileInteger? text.toList, Real.ofText? text.toList with
    | some value, _ => .ok (.integer value)
    | none, some value => .ok (.real value)
    | none, none => .ok (.string text)

/-- What the text of a variable suggests. -/
def ofVariable (text : String) : Datum :=
  let lower := Text.lowercaseString text
  if lower = "true" then .flag true
  else if lower = "false" then .flag false
  else
    match integerIn? 10 text.toList, Real.ofText? text.toList with
    | some value, _ => .integer value
    | none, some value => .real value
    | none, none => .string text

/-- What a plain scalar suggests whose tag names its kind. A text of another kind suggests nothing. -/
def ofTagged (kind text : String) : Except SettingsMisfit Datum :=
  if kind = "bool" then
    .ok (if text = "true" then .flag true else if text = "false" then .flag false else .nothing)
  else if kind = "int" then .ok (((integerIn? 10 text.toList).map .integer).getD .nothing)
  else if kind = "float" then
    if pastNumbers.contains text then .error (.badValue text)
    else .ok (((Real.ofText? text.toList).map .real).getD .nothing)
  else if kind = "null" then .ok .nothing
  else .ok (.string text)

/-- What a scalar of a file suggests. -/
def ofScalar (scalar : Scalar) : Except SettingsMisfit Datum :=
  match scalar.style, scalar.tag with
  | .plain, none => ofPlain scalar.text
  | .plain, some tag =>
    match tag.coreName? with
    | some kind => ofTagged kind scalar.text
    | none => .ok (.string scalar.text)
  | .quoted, _ | .literal, _ | .folded, _ => .ok (.string scalar.text)

/-- The key that a value stands for. -/
def keyName? : Datum → Option String
  | .string text => some text
  | .integer value => some (toString value)
  | .nothing | .flag _ | .real _ | .list _ | .table _ => none

/-- Puts an entry over those of the same key. -/
def putEntry (key : String) (value : Datum) (entries : List (String × Datum)) : List (String × Datum) :=
  entries.filter (fun entry => entry.1 ≠ key) ++ [(key, value)]

/-- The entries of a table. Any other value has none. -/
def entries : Datum → List (String × Datum)
  | .table entries => entries
  | _ => []

/-- The items of a list. Any other value has none. -/
def items : Datum → List Datum
  | .list items => items
  | _ => []

mutual

/-- What a node suggests. -/
def ofNode : Node → Except SettingsMisfit Datum
  | .scalar scalar => ofScalar scalar
  | .sequence items => do return .list (← ofItems items)
  | .mapping entries => do return .table (← ofEntries [] entries)
  | .alias _ => .ok .nothing

/-- What the items of a sequence suggest. -/
def ofItems : List Node → Except SettingsMisfit (List Datum)
  | [] => .ok []
  | node :: rest => do
    let first ← ofNode node
    return first :: (← ofItems rest)

/-- What the entries of a mapping suggest, put over the given ones. -/
def ofEntries (before : List (String × Datum)) :
    List (Node × Node) → Except SettingsMisfit (List (String × Datum))
  | [] => .ok before
  | (key, node) :: rest => do
    match keyName? (← ofNode key) with
    | some key => do
      let value ← ofNode node
      ofEntries (putEntry key value before) rest
    | none => throw .badKey

end

/-- The count that a value stands for. -/
def count? : Datum → Option Nat
  | .integer value => if 0 ≤ value then some value.toNat else none
  | .flag value => some (if value then 1 else 0)
  | .real value => some value.toCount
  | .string text =>
    let lower := Text.lowercaseString text
    if ["true", "on", "yes"].contains lower then some 1
    else if ["false", "off", "no"].contains lower then some 0
    else (readCount? text.toList).map UInt64.toNat
  | .nothing | .list _ | .table _ => none

/-- The truth value that a value stands for. -/
def flag? : Datum → Option Bool
  | .integer value => some (value ≠ 0)
  | .flag value => some value
  | .real value => some (!value.isZero)
  | .string text =>
    let lower := Text.lowercaseString text
    if ["1", "true", "on", "yes"].contains lower then some true
    else if ["0", "false", "off", "no"].contains lower then some false
    else none
  | .nothing | .list _ | .table _ => none

/-- The text that a value stands for. -/
def text? : Datum → Option String
  | .integer value => some (toString value)
  | .flag value => some (if value then "true" else "false")
  | .real value => some (String.ofList value.text)
  | .string text => some text
  | .nothing | .list _ | .table _ => none

/-- The value of a kind that a value stands for. -/
def read? : (kind : SettingKind) → Datum → Option kind.Value
  | .count, value => value.count?
  | .flag, value => value.flag?
  | .text, value => value.text?

end Datum

end Kindred
