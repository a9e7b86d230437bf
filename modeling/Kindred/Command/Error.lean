import Kindred.Command.LogFilter
import Kindred.Family.File
import Kindred.Phrase.Error
import Kindred.Report.Format
import Kindred.Settings.Load

/-! Why a command fails, and how it tells. -/

namespace Kindred

/-- Why a command fails. -/
inductive CommandError where
  | settings (cause : SettingsError)
  | logFilter (cause : LogFilterError)
  | format (cause : UnsupportedFormat)
  | familyLoad (cause : FamilyLoadError)
  | familySave (cause : FamilySaveError)
  | unknownPerson (key : String)
  | phrase (text : String) (cause : ParseError)
  | reportFile (path : String) (cause : FileError)
  | settingsFile (path : String) (cause : FileError)
  | ancestryCycles (count : Nat)
deriving DecidableEq, Repr

namespace CommandError

/-- The message of an error. -/
def message : CommandError → String
  | .settings cause => cause.message
  | .logFilter _ => "Failed to create env filter"
  | .format cause => cause.message
  | .familyLoad cause => cause.message
  | .familySave cause => cause.message
  | .unknownPerson key => s!"No person with id or name '{key}'"
  | .phrase text _ => s!"Failed to parse phrase '{text}'"
  | .reportFile path _ => "Failed to write output to: " ++ Text.quoted path
  | .settingsFile path _ => "Failed to write configuration file: " ++ Text.quoted path
  | .ancestryCycles count => s!"{count} ancestry cycle(s) found"

/-- The messages of the causes, the nearest first. -/
def causes : CommandError → List String
  | .settings cause => cause.causes
  | .logFilter cause => cause.causes
  | .familyLoad cause => cause.causes
  | .familySave cause => [cause.cause.message]
  | .phrase _ cause => [cause.message]
  | .reportFile _ cause | .settingsFile _ cause => [cause.message]
  | .format _ | .unknownPerson _ | .ancestryCycles _ => []

/-- A text whose lines after the first one begin with spaces. -/
def indented (spaces : Nat) (text : String) : String :=
  String.ofList (text.toList.flatMap fun c =>
    if c = '\n' then '\n' :: List.replicate spaces ' ' else [c])

/-- Causes with their numbers, from the given one on. -/
def numbered (n : Nat) : List String → List String
  | [] => []
  | cause :: rest =>
    let label := toString n
    (String.ofList (List.replicate (5 - label.length) ' ') ++ label ++ ": " ++ indented 7 cause) ::
      numbered (n + 1) rest

/-- The lines of the causes. Several are numbered. -/
def causeLines : List String → List String
  | [] => []
  | [cause] => ["", "Caused by:", "    " ++ indented 4 cause]
  | causes => "" :: "Caused by:" :: numbered 0 causes

/-- What an error prints. -/
def text (error : CommandError) : String :=
  String.join ((("Error: " ++ error.message) :: causeLines error.causes).map (· ++ "\n"))

end CommandError

end Kindred
