import Kindred.Yaml.Dialect
import Kindred.Yaml.Properties

/-! White space and line breaks inside scalars. What has been read is kept newest first. -/

namespace Kindred.Yaml

/-- The white space after the last character of a scalar that has been read. -/
inductive Gap where
  | blanks (read : List Char)
  /-- One line break or several. The first one is missing when a backslash stood in front of it. -/
  | breaks (first : Option Char) (more : List Char)
deriving DecidableEq, Repr

namespace Gap

/-- No white space. -/
def none : Gap :=
  .blanks []

/-- There is no white space. -/
def isNone (gap : Gap) : Bool :=
  gap = none

/-- There is a line break. -/
def hasBreak : Gap → Bool
  | .blanks _ => false
  | .breaks .. => true

/-- The white space with one more blank. Blanks at the head of a line do not count. -/
def withBlank (gap : Gap) (c : Char) : Gap :=
  match gap with
  | .blanks read => .blanks (c :: read)
  | .breaks first more => .breaks first more

/-- The white space with one more line break. Blanks at the end of a line do not count. -/
def withBreak (gap : Gap) (c : Char) : Gap :=
  match gap with
  | .blanks _ => .breaks (some (breakText c)) []
  | .breaks first more => .breaks first (breakText c :: more)

/-- What the white space stands for inside a scalar: one line break for a space, more for one less. -/
def text : Gap → List Char
  | .blanks read => read
  | .breaks (some '\n') [] => [' ']
  | .breaks (some '\n') more => more
  | .breaks (some first) more => more ++ [first]
  | .breaks .none more => more

end Gap

/-- A block scalar that is being read. -/
structure BlockScalar where
  style : Style
  chomp : Chomp
  /-- The column of its lines, or zero as long as it is not known. -/
  indent : Nat
  /-- The most spaces on the empty lines in front of the first one. -/
  widest : Nat := 0
  read : List Char := []
  /-- The line break after the last line. -/
  lastBreak : List Char := []
  /-- The empty lines after it. -/
  emptyLines : List Char := []
  /-- The last line begins with a blank. -/
  afterBlank : Bool := false
deriving DecidableEq, Repr

namespace BlockScalar

/-- The scalar with the first character of a line. A folded scalar joins two lines that begin with no blank. -/
def beginLine (scalar : BlockScalar) (c : Char) : BlockScalar :=
  let joins := scalar.style = .folded ∧ scalar.lastBreak = ['\n'] ∧ !scalar.afterBlank ∧ !isBlank c
  let joint :=
    if !joins then scalar.lastBreak
    else if scalar.emptyLines = [] then [' ']
    else []
  { scalar with
    read := c :: (scalar.emptyLines ++ joint ++ scalar.read)
    lastBreak := []
    emptyLines := []
    afterBlank := isBlank c }

/-- The text of a scalar at its end. -/
def text (scalar : BlockScalar) : List Char :=
  let lastBreak := if scalar.chomp = .strip then [] else scalar.lastBreak
  let emptyLines := if scalar.chomp = .keep then scalar.emptyLines else []
  (emptyLines ++ lastBreak ++ scalar.read).reverse

end BlockScalar

end Kindred.Yaml
