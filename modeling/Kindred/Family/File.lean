import Kindred.Family.Document
import Kindred.Files.Access
import Kindred.Text.Quoted

/-! Family documents in files. -/

namespace Kindred

/-- Why a family file cannot be loaded. -/
inductive FamilyLoadError where
  | unreadable (path : String) (cause : FileError)
  | invalid (path : String) (cause : SchemaError)
deriving DecidableEq, Repr

/-- The message of an error. -/
def FamilyLoadError.message : FamilyLoadError → String
  | .unreadable path _ => "Failed to read family file " ++ Text.quoted path
  | .invalid path _ => "Failed to load family file " ++ Text.quoted path

/-- The messages of the causes, the nearest first. -/
def FamilyLoadError.causes : FamilyLoadError → List String
  | .unreadable _ cause => [cause.message]
  | .invalid _ (.invalidJson error) => [(SchemaError.invalidJson error).message, error.message]
  | .invalid _ cause => [cause.message]

/-- A family file that cannot be written. -/
structure FamilySaveError where
  path : String
  cause : FileError
deriving DecidableEq, Repr

/-- The message of an error. -/
def FamilySaveError.message (error : FamilySaveError) : String :=
  "Failed to write family file " ++ Text.quoted error.path

namespace FamilyDocument

variable {m : Type → Type} [Monad m] [FileAccess m]

/-- Loads a document from a file. -/
def load (path : String) : m (Except FamilyLoadError FamilyDocument) := do
  match ← readFile path with
  | .error cause => return .error (.unreadable path cause)
  | .ok text => return (ofText text).mapError (.invalid path)

/-- Saves a document to a file. -/
def save (document : FamilyDocument) (path : String) : m (Except FamilySaveError Unit) := do
  return (← writeFile path document.pretty).mapError (⟨path, ·⟩)

end FamilyDocument

end Kindred
