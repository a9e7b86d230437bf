import Kindred.Files.Access
import Kindred.Settings.Layer
import Kindred.Text.Quoted

/-! Loading settings and saving them. -/

namespace Kindred

/-- Why settings cannot be loaded. -/
inductive SettingsError where
  | unreadable (path : String) (cause : FileError)
  | malformed (path : String) (cause : SettingsMisfit)
  /-- The file of the layers is not to be read. -/
  | noLayer (path : String) (cause : SettingsMisfit)
  /-- The layers hold a value that does not fit. -/
  | unfit (cause : SettingsMisfit)
  | fault (fault : SettingsFault)
deriving DecidableEq, Repr

/-- The message of an error. -/
def SettingsError.message : SettingsError → String
  | .unreadable path _ => "Failed to read config file " ++ Text.quoted path
  | .malformed path _ => "Failed to parse config file " ++ Text.quoted path
  | .noLayer .. => "Failed to assemble configuration"
  | .unfit _ => "Failed to deserialize configuration"
  | .fault broken => broken.message

/-- The messages of the causes, the nearest first. -/
def SettingsError.causes : SettingsError → List String
  | .unreadable _ cause => [cause.message]
  | .malformed _ cause => [cause.message]
  | .noLayer path cause => [cause.message ++ " in " ++ path]
  | .unfit cause => [cause.message]
  | .fault _ => []

namespace Settings

variable {m : Type → Type} [Monad m] [FileAccess m]

/-- Settings that keep all rules. -/
def checked (settings : Settings) : Except SettingsError Settings :=
  match settings.check with
  | .ok _ => .ok settings
  | .error fault => .error (.fault fault)

/-- Loads settings from one file, which must be there. -/
def loadFile (path : String) : m (Except SettingsError Settings) := do
  match ← readFile path with
  | .error cause => return .error (.unreadable path cause)
  | .ok text =>
    match ofYaml text with
    | .error cause => return .error (.malformed path cause)
    | .ok settings => return settings.checked

/-- The text of the first path that is a file. -/
def firstText? : List String → m (Option (String × String))
  | [] => return none
  | path :: rest => do
    match ← readFile path with
    | .ok text => return some (path, text)
    | .error _ => firstText? rest

/-- The paths that a name of a file of settings may mean, the first one before the others. -/
def candidates (path : String) : List String :=
  [path, path ++ ".yaml", path ++ ".yml"]

/-- The settings of a file and, over it, of the environment. -/
def ofLayers (file : Option (String × String)) (environment : List (String × String)) :
    Except SettingsError Settings := do
  let layer ← match file with
    | none => pure (.table [])
    | some (path, text) => (fileLayer text).mapError (.noLayer path)
  let settings ← (ofDatum (withVariables environment layer)).mapError .unfit
  settings.checked

/-- Loads settings from a file, if one is named and there, and from the environment. -/
def load (path : Option String) (environment : List (String × String)) :
    m (Except SettingsError Settings) := do
  let file ← firstText? ((path.map candidates).getD [])
  return ofLayers file environment

/-- Saves settings to a file. -/
def save (settings : Settings) (path : String) : m (Except FileError Unit) :=
  writeFile path settings.toYaml

end Settings

end Kindred
