import Kindred.Text.Words

/-! The words of a phrase with their places. -/

namespace Kindred

/-- A word of a phrase and its place, counted from zero. -/
structure Token where
  text : String
  position : Nat
deriving DecidableEq, Repr, Inhabited

namespace Token

/-- The words of a text, as white space divides them. -/
def ofText (text : String) : List Token :=
  ((Text.blankSeparated text.toList).zipIdx).map fun (word, position) => ⟨String.ofList word, position⟩

/-- The phrase in the form that its words are looked up in. -/
def normalForm (text : String) : String :=
  String.ofList (Text.normalize text.toList)

/-- The words of a phrase in any writing. -/
def ofPhrase (text : String) : List Token :=
  ofText (normalForm text)

end Token

end Kindred
