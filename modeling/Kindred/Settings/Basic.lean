import Kindred.Classify
import Kindred.IdSource
import Kindred.Report.Format

/-! The settings of the program, their names in files, and the rules they must keep. -/

namespace Kindred

/-- What the program lets its user choose. -/
structure Settings where
  maxPathDepth : Nat := ({} : ClassifyOptions).maxPathDepth
  includePaths : Bool := ({} : ClassifyOptions).includePaths
  idLabel : String := ({} : IdSource).label
  idStart : UInt64 := ({} : IdSource).start
  format : String := OutputFormat.text.name
  logLevel : String := "info"
deriving DecidableEq, Repr, Inhabited

/-- A rule that settings do not keep. -/
inductive SettingsFault where
  | zeroDepth
  | emptyLabel
  | unsupportedFormat (error : UnsupportedFormat)
deriving DecidableEq, Repr

/-- The message for a broken rule. -/
def SettingsFault.message : SettingsFault → String
  | .zeroDepth => "Classifier max_path_depth must be greater than 0"
  | .emptyLabel => "Synthesis id_prefix must not be empty"
  | .unsupportedFormat error => error.message

/-- What kind of value a setting has. -/
inductive SettingKind where
  | count
  | flag
  | text
deriving DecidableEq, Repr

/-- The values of a kind. A count has 64 binary digits. -/
abbrev SettingKind.Value : SettingKind → Type
  | .count => Nat
  | .flag => Bool
  | .text => String

/-- One setting: its name inside its section, and how it is looked at and changed. -/
structure Setting where
  name : String
  kind : SettingKind
  get : Settings → kind.Value
  set : kind.Value → Settings → Settings

namespace Settings

/-- The settings of each section, in the order of a file. -/
def schema : List (String × List Setting) :=
  [("classifier", [
      ⟨"max_path_depth", .count, maxPathDepth, fun value held => { held with maxPathDepth := value }⟩,
      ⟨"include_paths", .flag, includePaths, fun value held => { held with includePaths := value }⟩]),
    ("synthesis", [
      ⟨"id_prefix", .text, idLabel, fun value held => { held with idLabel := value }⟩,
      ⟨"id_start", .count, fun held => held.idStart.toNat,
        fun value held => { held with idStart := UInt64.ofNat value }⟩]),
    ("output", [⟨"format", .text, format, fun value held => { held with format := value }⟩]),
    ("logging", [⟨"level", .text, logLevel, fun value held => { held with logLevel := value }⟩])]

/-- The format of reports. -/
def outputFormat (settings : Settings) : Except UnsupportedFormat OutputFormat :=
  OutputFormat.ofWord settings.format

/-- Looks at the rules in their order. -/
def check (settings : Settings) : Except SettingsFault Unit :=
  if settings.maxPathDepth = 0 then .error .zeroDepth
  else if settings.idLabel = "" then .error .emptyLabel
  else
    match settings.outputFormat with
    | .ok _ => .ok ()
    | .error error => .error (.unsupportedFormat error)

/-- The choices for classifying. -/
def classifyOptions (settings : Settings) : ClassifyOptions :=
  ⟨settings.maxPathDepth, settings.includePaths⟩

/-- A fresh source of identifiers. -/
def idSource (settings : Settings) : IdSource :=
  { label := settings.idLabel, start := settings.idStart }

end Settings

end Kindred
