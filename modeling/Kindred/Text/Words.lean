import Kindred.Text.Blank
import Kindred.Text.Letter
import Kindred.Text.Lowercase

/-! The words of a text. -/

namespace Kindred.Text

/-- The runs of wanted characters in a text, where the given word is the one being read. -/
def runsAfter (wanted : Char → Bool) (word : List Char) : List Char → List (List Char)
  | [] => if word.isEmpty then [] else [word]
  | c :: rest =>
    if wanted c then runsAfter wanted (word ++ [c]) rest
    else if word.isEmpty then runsAfter wanted [] rest
    else word :: runsAfter wanted [] rest

/-- The longest runs of wanted characters, in order. -/
def runs (wanted : Char → Bool) (text : List Char) : List (List Char) :=
  runsAfter wanted [] text

/-- The words of a text, as white space divides them. -/
def blankSeparated (text : List Char) : List (List Char) :=
  runs (fun c => !isBlank c) text

/-- Words with one space between neighbours. -/
def joinWords : List (List Char) → List Char
  | [] => []
  | [word] => word
  | word :: rest => word ++ ' ' :: joinWords rest

/-- One letter stands for both of a pair that writers do not keep apart. -/
def foldLetter (c : Char) : Char :=
  if c = 'ё' then 'е' else c

/-- A space takes the place of all but letters, numbers and white space. -/
def clearMark (c : Char) : Char :=
  if isWordChar c || isBlank c then c else ' '

/-- The text in lower case, with folded letters. -/
def fold (text : List Char) : List Char :=
  (lowercase text).map foldLetter

/-- The text folded, without marks, and with single spaces between its words. -/
def normalize (text : List Char) : List Char :=
  joinWords (blankSeparated ((fold text).map clearMark))

end Kindred.Text
