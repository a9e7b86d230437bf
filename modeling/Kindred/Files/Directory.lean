import Kindred.Files.Access
import Kindred.Text.Parts

/-! A directory of files that is held in memory. -/

namespace Kindred

/-- The names on the way to a file, from the directory down. -/
abbrev FilePath := List (List Char)

namespace FilePath

/-- The names of a path. A single dot names the place where it stands. -/
def ofString (path : String) : FilePath :=
  (Text.partsAt '/' path.toList).filter fun name => name ≠ [] ∧ name ≠ ['.']

end FilePath

/-- A path as it is asked for. -/
structure PathRequest where
  names : FilePath
  /-- The path stands in the directory, and not at the top of the disk. -/
  isInside : Bool
  /-- The path can only mean a directory. -/
  wantsDirectory : Bool

/-- What a written path asks for. -/
def PathRequest.ofString (path : String) : PathRequest :=
  let last := (Text.partsAt '/' path.toList).getLast?
  { names := FilePath.ofString path
    isInside := path ≠ "" && !path.startsWith "/" && !(FilePath.ofString path).contains ['.', '.']
    wantsDirectory := last = some [] || last = some ['.'] }

/-- Files by their path. A directory below exists when a file stands in it. -/
structure Directory where
  files : List (FilePath × String) := []
deriving DecidableEq, Repr, Inhabited

namespace Directory

/-- The directory with the given files, each under its written path. -/
def ofFiles (files : List (String × String)) : Directory :=
  ⟨files.map fun (path, text) => (FilePath.ofString path, text)⟩

/-- The files with their written paths. -/
def toFiles (directory : Directory) : List (String × String) :=
  directory.files.map fun (names, text) => ("/".intercalate (names.map String.ofList), text)

/-- The text of the file at a path. -/
def text? (directory : Directory) (names : FilePath) : Option String :=
  directory.files.lookup names

/-- The path is that of a directory. -/
def isDirectory (directory : Directory) (names : FilePath) : Bool :=
  names.isEmpty || directory.files.any fun (path, _) => names.length < path.length && names.isPrefixOf path

/-- A file stands where the path needs a directory. -/
def hasFileAbove (directory : Directory) (names : FilePath) : Bool :=
  directory.files.any fun (path, _) => path.length < names.length && path.isPrefixOf names

/-- Reads a file. -/
def read (directory : Directory) (path : String) : Except FileError String :=
  let request := PathRequest.ofString path
  if !request.isInside then .error .notFound
  else if directory.isDirectory request.names then .error .isDirectory
  else if directory.hasFileAbove request.names then .error .notADirectory
  else
    match directory.text? request.names with
    | some text => if request.wantsDirectory then .error .notADirectory else .ok text
    | none => .error .notFound

/-- Puts a text at a path, in place of what stood there. -/
def put (directory : Directory) (names : FilePath) (text : String) : Directory :=
  ⟨directory.files.filter (fun file => file.1 ≠ names) ++ [(names, text)]⟩

/-- Writes a file. Directories are not made. -/
def write (directory : Directory) (path text : String) : Except FileError Directory :=
  let request := PathRequest.ofString path
  if !request.isInside then .error .notFound
  else if directory.isDirectory request.names then .error .isDirectory
  else if directory.hasFileAbove request.names then .error .notADirectory
  else if !directory.isDirectory request.names.dropLast then .error .notFound
  else if request.wantsDirectory then .error .isDirectory
  else .ok (directory.put request.names text)

/-- A file or a directory stands at the path. -/
def has (directory : Directory) (path : String) : Bool :=
  match directory.read path with
  | .ok _ => true
  | .error error => error = .isDirectory

end Directory

instance : FileAccess (StateM Directory) where
  readFile path := return (← get).read path
  writeFile path text := do
    match (← get).write path text with
    | .ok directory => set directory; return .ok ()
    | .error error => return .error error
  fileExists path := return (← get).has path

end Kindred
