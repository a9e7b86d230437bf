import Kindred.Settings.Basic
import Kindred.Yaml.Reader
import Kindred.Yaml.Written

/-! Settings as a YAML document: reading one that must fit, and writing one. -/

namespace Kindred

open Yaml

/-- What is wrong with a document of settings. -/
inductive SettingsMisfit where
  | noYaml (error : SyntaxError)
  | repeatedKey (name : String)
  | badValue (name : String)
  | badKey
  | badShape
deriving DecidableEq, Repr

/-- The message for what is wrong. -/
def SettingsMisfit.message : SettingsMisfit → String
  | .noYaml error => error.message
  | .repeatedKey name => s!"duplicate field {name}"
  | .badValue name => s!"invalid value for {name}"
  | .badKey => "invalid key of a section"
  | .badShape => "invalid shape of a section"

/-- A part of a record: its name, and how a node that stands for it changes the settings. -/
abbrev NodePart := String × (Node → Settings → Except SettingsMisfit Settings)

namespace Settings

/-- The text of a scalar that may be something other than a text: a plain one, or a literal block whose tag says
so. -/
def untypedText? (tag : String) (scalar : Scalar) : Option String :=
  match scalar.style with
  | .plain => some scalar.text
  | .literal => if scalar.tag.bind Tag.coreName? = some tag then some scalar.text else none
  | .quoted | .folded => none

/-- Reads a value of a kind. Every scalar is a text. -/
def readScalar? : (kind : SettingKind) → Scalar → Option kind.Value
  | .count, scalar => ((untypedText? "int" scalar).bind natural?).filter (· ≤ maxCount)
  | .flag, scalar => (untypedText? "bool" scalar).bind flag?
  | .text, scalar => some scalar.text

/-- The keys of a mapping, which are scalars, with their values. -/
def namedEntries (document : Document) (entries : List (Node × Node)) :
    Except SettingsMisfit (List (String × Node)) :=
  entries.mapM fun (key, value) =>
    match document.scalar? key with
    | some scalar => .ok (scalar.text, value)
    | none => .error .badKey

/-- The names of some parts that stand in a mapping more than once. -/
def repeatedKey? (parts : List NodePart) (entries : List (String × Node)) : Option String :=
  (parts.map Prod.fst).find? fun name => 1 < entries.countP fun entry => entry.1 = name

/-- Reads the entries of a mapping. Those of no part are passed over. -/
def readEntries (parts : List NodePart) : List (String × Node) → Settings → Except SettingsMisfit Settings
  | [], settings => .ok settings
  | (name, node) :: rest, settings =>
    match parts.lookup name with
    | some read => do readEntries parts rest (← read node settings)
    | none => readEntries parts rest settings

/-- Reads a record of parts: a mapping, or nothing at all. -/
def readParts (document : Document) (parts : List NodePart) (node : Node) (settings : Settings) :
    Except SettingsMisfit Settings :=
  match document.node? node with
  | some (.mapping entries) => do
    -- All keys are looked at before any value is read.
    let entries ← namedEntries document entries
    match repeatedKey? parts entries with
    | some name => throw (.repeatedKey name)
    | none => readEntries parts entries settings
  | some (.scalar scalar) =>
    if scalar.style = .plain ∧ scalar.text = "" then .ok settings else .error .badShape
  | _ => .error .badShape

/-- A setting as a part of its section. -/
def settingPart (document : Document) (setting : Setting) : NodePart :=
  (setting.name, fun node settings =>
    match (document.scalar? node).bind (readScalar? setting.kind) with
    | some value => .ok (setting.set value settings)
    | none => .error (.badValue setting.name))

/-- The sections as the parts of a document. -/
def sectionParts (document : Document) : List NodePart :=
  schema.map fun (name, settings) => (name, readParts document (settings.map (settingPart document)))

/-- Reads settings from a text. What is not written there has its usual value. -/
def ofYaml (text : String) : Except SettingsMisfit Settings := do
  match ← (Document.ofText? .strict text).mapError .noYaml with
  | none => return {}
  | some document => readParts document (sectionParts document) document.root {}

/-- The written form of a value, to the end of its line. -/
def writeValue : (kind : SettingKind) → kind.Value → String
  | .count, value => toString value ++ "\n"
  | .flag, value => if value then "true\n" else "false\n"
  | .text, value => written value

/-- The lines of a setting. -/
def writeSetting (settings : Settings) (setting : Setting) : String :=
  "  " ++ setting.name ++ ": " ++ writeValue setting.kind (setting.get settings)

/-- The text of settings. -/
def toYaml (settings : Settings) : String :=
  String.join (schema.map fun (name, parts) =>
    name ++ ":\n" ++ String.join (parts.map settings.writeSetting))

end Settings

end Kindred
