import Kindred.Person

/-! The Russian words for relatives, by relation and sex. -/

namespace Kindred.Lexicon

/-- The word for a pair without a known relation. -/
def notFound : String :=
  "связь не найдена"

/-- The word for a person compared with himself or herself. -/
def samePerson : String :=
  "тот же человек"

/-- The relations that have a word of their own. -/
inductive Concept where
  | parent
  | child
  | grandparent
  | grandchild
  | greatGrandparent
  | greatGrandchild
  | sibling
  | auntUncle
  | nieceNephew
deriving DecidableEq, Repr, Inhabited

/-- The words of a concept for a man, for a woman, and for a person of unknown sex. -/
def Concept.words : Concept → String × String × String
  | .parent => ("отец", "мать", "родитель")
  | .child => ("сын", "дочь", "ребёнок")
  | .grandparent => ("дедушка", "бабушка", "дедушка/бабушка")
  | .grandchild => ("внук", "внучка", "внук/внучка")
  | .greatGrandparent => ("прадедушка", "прабабушка", "прадедушка/прабабушка")
  | .greatGrandchild => ("правнук", "правнучка", "правнук/правнучка")
  | .sibling => ("брат", "сестра", "брат/сестра")
  | .auntUncle => ("дядя", "тётя", "дядя/тётя")
  | .nieceNephew => ("племянник", "племянница", "племянник/племянница")

/-- The member of a triple of words that fits a sex. -/
def forSex (words : String × String × String) : Sex → String
  | .male => words.1
  | .female => words.2.1
  | .unknown => words.2.2

/-- The word of a concept for a person of the given sex. -/
def word (concept : Concept) (sex : Sex) : String :=
  forSex concept.words sex

/-- How a line of descent is named. -/
def lineNote : Line → String
  | .maternal => "по материнской линии"
  | .paternal => "по отцовской линии"

/-- The stem of the ordinal that goes with a relative of the given rank, from the second to the fifth. -/
def ordinalStem? : Nat → Option String
  | 2 => some "двоюродн"
  | 3 => some "троюродн"
  | 4 => some "четвероюродн"
  | 5 => some "пятиюродн"
  | _ => none

/-- The adjective of a stem, in the gender that fits a sex. -/
def inflect (stem : String) (sex : Sex) : String :=
  stem ++ forSex ("ый", "ая", "ый(-ая)") sex

/-- A relative's word with the degree of cousinship: an ordinal, or a number past the last ordinal. -/
def withCousinDegree (degree : Nat) (sex : Sex) (noun : String) : String :=
  match ordinalStem? (degree + 1) with
  | some stem => inflect stem sex ++ " " ++ noun
  | none => noun ++ " " ++ toString degree ++ "-й степени"

/-- The words for a sibling. -/
def siblingTerm (sex : Sex) : String :=
  word .sibling sex

/-- The words for an ancestor and a descendant that many generations apart. -/
def directTerms (generations : Nat) (ancestor descendant : Sex) : String × String :=
  match generations with
  | 1 => (word .parent ancestor, word .child descendant)
  | 2 => (word .grandparent ancestor, word .grandchild descendant)
  | 3 => (word .greatGrandparent ancestor, word .greatGrandchild descendant)
  | n => (s!"предок, поколение {n}", s!"потомок, поколение {n}")

/-- The words for a sibling of an ancestor and for the descendant of that ancestor. -/
def auntFamilyTerms (degree : Nat) (senior junior : Sex) : String × String :=
  match degree with
  | 1 => (word .auntUncle senior, word .nieceNephew junior)
  | 2 => remote "двоюродн"
  | 3 => remote "троюродн"
  | d => (s!"боковой предок, удалённость {d}", s!"боковой потомок, удалённость {d}")
where
  /-- Great-aunts take the words of grandparents, with an ordinal. -/
  remote (stem : String) : String × String :=
    (inflect stem senior ++ " " ++ word .grandparent senior,
      inflect stem junior ++ " " ++ word .grandchild junior)

/-- The words for two cousins: the one nearer to the common ancestor, then the farther one. -/
def cousinTerms (degree removal : Nat) (near far : Sex) : String × String :=
  match removal with
  | 0 => both .sibling .sibling ""
  | 1 => both .auntUncle .nieceNephew ""
  | r => both .auntUncle .nieceNephew s!", удалённость {r}"
where
  /-- Both words carry the degree and the same ending. -/
  both (nearConcept farConcept : Concept) (ending : String) : String × String :=
    (withCousinDegree degree near (word nearConcept near) ++ ending,
      withCousinDegree degree far (word farConcept far) ++ ending)

end Kindred.Lexicon
