import Kindred.Phrase.Sentence

/-! The Russian words of a sentence, in lower case and with one letter for both forms of е. -/

namespace Kindred.Vocabulary

/-- The word begins with one of the stems. -/
def hasStem (word : String) (stems : List String) : Bool :=
  stems.any fun stem => stem.toList.isPrefixOf word.toList

/-- The forms of the words for a mother. -/
def motherForms : List String :=
  ["мать", "матери", "матерью", "мама", "мамы", "маме", "маму", "мамой"]

/-- The forms of the words for a father. -/
def fatherForms : List String :=
  ["отец", "отца", "отцу", "отцом", "папа", "папы", "папе", "папу", "папой"]

/-- The stem of a grandfather. -/
def grandfatherStems : List String :=
  ["дед"]

/-- The stems of a grandmother. -/
def grandmotherStems : List String :=
  ["бабушк", "бабк", "бабул"]

/-- The stems of the mother's side. -/
def maternalStems : List String :=
  ["материнск", "мамин"]

/-- The stems of the father's side. -/
def paternalStems : List String :=
  ["отцовск", "папин"]

/-- The stem of the word for a line. -/
def lineStems : List String :=
  ["лини"]

/-- The stem of the younger one. -/
def youngerStems : List String :=
  ["младш"]

/-- The stem of the older one. -/
def olderStems : List String :=
  ["старш"]

/-- The stem of a sister. -/
def sisterStems : List String :=
  ["сестр"]

/-- The stem of a brother. -/
def brotherStems : List String :=
  ["брат"]

/-- The words that may stand before the sibling without a meaning of their own. -/
def fillers : List String :=
  ["это", "является", "есть", "равно", "равна", "равен", "тоже", "как"]

/-- The possessive pronoun that a word is. -/
def pronoun? (word : String) : Option Pronoun :=
  if word = "его" then some .his
  else if word = "ее" ∨ word = "нее" then some .her
  else none

/-- The relative that a word names. Parents have whole forms, grandparents stems. -/
def relationTerm? (word : String) : Option RelationTerm :=
  if motherForms.contains word then some .mother
  else if fatherForms.contains word then some .father
  else if hasStem word grandfatherStems then some .grandfather
  else if hasStem word grandmotherStems then some .grandmother
  else none

/-- The word introduces a line. -/
def isLinePreposition (word : String) : Bool :=
  word = "по"

/-- The side that a word names. -/
def lineSide? (word : String) : Option Line :=
  if hasStem word maternalStems then some .maternal
  else if hasStem word paternalStems then some .paternal
  else none

/-- The word is a form of the word for a line. -/
def isLineWord (word : String) : Bool :=
  hasStem word lineStems

/-- The word may be skipped before the sibling. -/
def isFiller (word : String) : Bool :=
  fillers.contains word

/-- The rank that a word names. -/
def rank? (word : String) : Option Rank :=
  if hasStem word youngerStems then some .younger
  else if hasStem word olderStems then some .older
  else none

/-- The sibling that a word names. -/
def siblingWord? (word : String) : Option SiblingWord :=
  if hasStem word sisterStems then some .sister
  else if hasStem word brotherStems then some .brother
  else none

end Kindred.Vocabulary
