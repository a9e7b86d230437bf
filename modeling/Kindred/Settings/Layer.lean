import Kindred.Settings.KeyPath
import Kindred.Text.Parts

/-! Settings from layers: a file, and over it the variables of the environment. -/

namespace Kindred

open Yaml

namespace Settings

/-- A part of a record: its name, and how a value that stands for it changes the settings. -/
abbrev DatumPart := String × (Datum → Settings → Except SettingsMisfit Settings)

/-- Reads the parts that a table has. -/
def readTable (entries : List (String × Datum)) : List DatumPart → Settings → Except SettingsMisfit Settings
  | [], settings => .ok settings
  | (name, read) :: parts, settings =>
    match entries.lookup name with
    | some value => do readTable entries parts (← read value settings)
    | none => readTable entries parts settings

/-- Reads parts in their order. Items past the last part are passed over. -/
def readList : List DatumPart → List Datum → Settings → Except SettingsMisfit Settings
  | (_, read) :: parts, value :: rest, settings => do readList parts rest (← read value settings)
  | _, _, settings => .ok settings

/-- Reads a record of parts: a table or a list. -/
def readRecord (parts : List DatumPart) (value : Datum) (settings : Settings) :
    Except SettingsMisfit Settings :=
  match value with
  | .table entries => readTable entries parts settings
  | .list items => readList parts items settings
  | _ => .error .badShape

/-- A setting as a part of its section. -/
def settingDatum (setting : Setting) : DatumPart :=
  (setting.name, fun value settings =>
    match Datum.read? setting.kind value with
    | some value => .ok (setting.set value settings)
    | none => .error (.badValue setting.name))

/-- Reads settings from the values of all layers. -/
def ofDatum (value : Datum) : Except SettingsMisfit Settings :=
  readRecord (schema.map fun (name, settings) => (name, readRecord (settings.map settingDatum))) value {}

/-- Dots in place of pairs of underscores. -/
def dotted : List Char → List Char
  | '_' :: '_' :: rest => '.' :: dotted rest
  | c :: rest => c :: dotted rest
  | [] => []

/-- The path that a variable names, if it is one of the program's. The case of its letters does not matter. -/
def variablePath? (name : String) : Option (List PathStep) :=
  let lower := (Text.lowercaseString name).toList
  (Text.afterPart? "kinship__".toList lower).map fun path => PathStep.ofText (dotted path)

/-- Puts the variables of the environment over the values of a file. -/
def withVariables (environment : List (String × String)) (value : Datum) : Datum :=
  environment.foldl (fun held (name, text) =>
    match variablePath? name with
    | some path => (Datum.ofVariable text).putAt path held
    | none => held) value

/-- The values of a file. The outermost keys of its document may be paths. A document that is no mapping has no
values. -/
def fileLayer (text : String) : Except SettingsMisfit Datum := do
  match ← (Document.ofText? .lenient text).mapError .noYaml with
  | none => return .table []
  | some document =>
    let entries := (← Datum.ofNode document.root).entries
    return entries.foldl (fun held (key, value) => value.putAt (PathStep.ofText key.toList) held) (.table [])

end Settings

end Kindred
