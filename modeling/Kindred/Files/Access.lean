/-! Access to files, over any carrier of effects. -/

namespace Kindred

/-- Why a file cannot be read or written. -/
inductive FileError where
  | notFound
  | notADirectory
  | isDirectory
  | notText
  | other (description : String)
deriving DecidableEq, Repr

/-- The message of an error. -/
def FileError.message : FileError → String
  | .notFound => "No such file or directory (os error 2)"
  | .notADirectory => "Not a directory (os error 20)"
  | .isDirectory => "Is a directory (os error 21)"
  | .notText => "stream did not contain valid UTF-8"
  | .other description => description

/-- Reads and writes whole files by their path. -/
class FileAccess (m : Type → Type) where
  readFile : String → m (Except FileError String)
  writeFile : String → String → m (Except FileError Unit)
  fileExists : String → m Bool

export FileAccess (readFile writeFile fileExists)

end Kindred
