import Kindred.Phrase.Error
import Kindred.Phrase.Vocabulary

/-! The words of a sentence fall into classes, and no word is of two of them. -/

namespace Kindred

/-- What a word can look like: it has one certain form, or it begins with a stem. -/
inductive WordPattern where
  | form (text : String)
  | stem (text : String)

namespace WordPattern

/-- The word looks like that. -/
def Fits (word : String) : WordPattern → Prop
  | .form text => word = text
  | .stem text => text.toList <+: word.toList

/-- Only the form itself fits. -/
@[simp] theorem fits_form {text word : String} : (form text).Fits word ↔ word = text :=
  Iff.rfl

/-- Whatever begins with the stem fits. -/
@[simp] theorem fits_stem {text word : String} :
    (stem text).Fits word ↔ text.toList <+: word.toList :=
  Iff.rfl

/-- Some word looks like both. -/
def meets : WordPattern → WordPattern → Bool
  | .form first, .form second => first = second
  | .form whole, .stem opening => opening.toList.isPrefixOf whole.toList
  | .stem opening, .form whole => opening.toList.isPrefixOf whole.toList
  | .stem first, .stem second =>
    -- A word that begins with both stems shows the longer one, which begins with the shorter one.
    first.toList.isPrefixOf second.toList || second.toList.isPrefixOf first.toList

/-- Two patterns that one word fits meet. -/
theorem meets_of_fits {first second : WordPattern} {word : String} (one : first.Fits word)
    (other : second.Fits word) : first.meets second := by
  -- A form is the word itself, and two stems of one word begin each other.
  cases first with
  | form whole =>
    have same : word = whole := one
    subst same
    cases second with
    | form whole => simpa [meets] using other
    | stem opening => simpa [meets] using other
  | stem opening =>
    cases second with
    | form whole =>
      have same : word = whole := other
      subst same
      simpa [meets] using one
    | stem further => simpa [meets] using List.prefix_or_prefix_of_prefix one other

end WordPattern

/-- The classes of words that a sentence is made of, with what they mean. -/
inductive WordClass where
  | pronoun (pronoun : Pronoun)
  | relative (term : RelationTerm)
  | linePreposition
  | lineSide (line : Line)
  | lineWord
  | filler
  | rank (rank : Rank)
  | sibling (sibling : SiblingWord)
deriving DecidableEq

namespace WordClass

open Vocabulary in
/-- What the words of a class look like. -/
def patterns : WordClass → List WordPattern
  | .pronoun .his => [.form "его"]
  | .pronoun .her => [.form "ее", .form "нее"]
  | .relative .mother => motherForms.map .form
  | .relative .father => fatherForms.map .form
  | .relative .grandfather => grandfatherStems.map .stem
  | .relative .grandmother => grandmotherStems.map .stem
  | .linePreposition => [.form "по"]
  | .lineSide .maternal => maternalStems.map .stem
  | .lineSide .paternal => paternalStems.map .stem
  | .lineWord => lineStems.map .stem
  | .filler => fillers.map .form
  | .rank .younger => youngerStems.map .stem
  | .rank .older => olderStems.map .stem
  | .sibling .sister => sisterStems.map .stem
  | .sibling .brother => brotherStems.map .stem

/-- The word is of the class. -/
def Has (cls : WordClass) (word : String) : Prop :=
  ∃ pattern ∈ cls.patterns, pattern.Fits word

/-- All classes. -/
def all : List WordClass :=
  [.pronoun .his, .pronoun .her, .relative .mother, .relative .father, .relative .grandfather,
    .relative .grandmother, .linePreposition, .lineSide .maternal, .lineSide .paternal, .lineWord,
    .filler, .rank .younger, .rank .older, .sibling .sister, .sibling .brother]

/-- No class is missing. -/
theorem mem_all (cls : WordClass) : cls ∈ all := by
  rcases cls with ⟨_ | _⟩ | ⟨_ | _ | _ | _⟩ | _ | ⟨_ | _⟩ | _ | _ | ⟨_ | _⟩ | ⟨_ | _⟩ <;> decide

/-- Patterns of different classes do not meet: no form begins with a stem of another class, and no stem
with another stem. -/
theorem eq_of_meets : ∀ first ∈ all, ∀ second ∈ all, ∀ one ∈ first.patterns,
    ∀ other ∈ second.patterns, one.meets other → first = second := by
  decide +kernel

/-- No word is of two classes. -/
theorem Has.unique {first second : WordClass} {word : String} (one : first.Has word)
    (other : second.Has word) : first = second := by
  -- The patterns that the word fits meet.
  obtain ⟨pattern, member, fits⟩ := one
  obtain ⟨otherPattern, otherMember, otherFits⟩ := other
  exact eq_of_meets first (mem_all first) second (mem_all second) pattern member otherPattern
    otherMember (WordPattern.meets_of_fits fits otherFits)

end WordClass

namespace Vocabulary

variable {word : String}

/-- A word is one of some forms when it fits the pattern of one of them. -/
theorem contains_forms_iff (forms : List String) (word : String) :
    forms.contains word ↔ ∃ pattern ∈ forms.map WordPattern.form, pattern.Fits word := by
  simp only [List.contains_iff_mem, List.mem_map]
  constructor
  · intro member
    exact ⟨.form word, ⟨word, member, rfl⟩, rfl⟩
  · rintro ⟨_, ⟨form, member, rfl⟩, rfl⟩
    exact member

/-- A word has one of some stems when it fits the pattern of one of them. -/
theorem hasStem_iff (stems : List String) (word : String) :
    hasStem word stems ↔ ∃ pattern ∈ stems.map WordPattern.stem, pattern.Fits word := by
  simp only [hasStem, List.any_eq_true, List.isPrefixOf_iff_prefix, List.mem_map]
  constructor
  · rintro ⟨stem, member, begins⟩
    exact ⟨.stem stem, ⟨stem, member, rfl⟩, begins⟩
  · rintro ⟨_, ⟨stem, member, rfl⟩, begins⟩
    exact ⟨stem, member, begins⟩

/-- A lookup that tries one class and then some others finds exactly the class that the word has: no other
one could have been found before it. -/
theorem ite_eq_some_iff_has {α : Type} {cls : α → WordClass}
    (injective : ∀ one other, cls one = cls other → one = other) {here : Prop} [Decidable here]
    {first : α} {rest : Option α} {others : α → Prop} (tried : here ↔ (cls first).Has word)
    (after : ∀ meaning, rest = some meaning ↔ others meaning ∧ (cls meaning).Has word)
    (meaning : α) :
    (if here then some first else rest) = some meaning ↔
      (meaning = first ∨ others meaning) ∧ (cls meaning).Has word := by
  by_cases found : here
  · -- The word is of the first class, and therefore of no other one.
    rw [if_pos found, Option.some.injEq]
    constructor
    · rintro rfl
      exact ⟨Or.inl rfl, tried.mp found⟩
    · rintro ⟨_, has⟩
      exact injective _ _ ((tried.mp found).unique has)
  · -- The word is not of the first class, so the lookup goes on.
    rw [if_neg found, after]
    refine ⟨fun ⟨other, has⟩ => ⟨Or.inr other, has⟩, fun ⟨either, has⟩ => ⟨?_, has⟩⟩
    refine either.resolve_left ?_
    rintro rfl
    exact found (tried.mpr has)

/-- The last of the lookups in a row finds nothing. -/
theorem none_eq_some_iff_has {α : Type} (cls : α → WordClass) (meaning : α) :
    none = some meaning ↔ False ∧ (cls meaning).Has word := by
  simp

/-- The lookup of a pronoun knows its class. -/
theorem pronoun?_eq_some_iff (pronoun : Pronoun) :
    pronoun? word = some pronoun ↔ (WordClass.pronoun pronoun).Has word := by
  have injective : ∀ one other, WordClass.pronoun one = .pronoun other → one = other :=
    fun _ _ => WordClass.pronoun.inj
  have his : word = "его" ↔ (WordClass.pronoun .his).Has word := by
    simp [WordClass.Has, WordClass.patterns]
  have her : (word = "ее" ∨ word = "нее") ↔ (WordClass.pronoun .her).Has word := by
    simp [WordClass.Has, WordClass.patterns]
  rw [pronoun?, ite_eq_some_iff_has injective his (ite_eq_some_iff_has injective her
    (none_eq_some_iff_has WordClass.pronoun))]
  cases pronoun <;> simp

/-- The lookup of a relative knows its class. -/
theorem relationTerm?_eq_some_iff (term : RelationTerm) :
    relationTerm? word = some term ↔ (WordClass.relative term).Has word := by
  have injective : ∀ one other, WordClass.relative one = .relative other → one = other :=
    fun _ _ => WordClass.relative.inj
  rw [relationTerm?, ite_eq_some_iff_has injective (contains_forms_iff motherForms word)
    (ite_eq_some_iff_has injective (contains_forms_iff fatherForms word)
      (ite_eq_some_iff_has injective (hasStem_iff grandfatherStems word)
        (ite_eq_some_iff_has injective (hasStem_iff grandmotherStems word)
          (none_eq_some_iff_has WordClass.relative))))]
  cases term <;> simp

/-- The lookup of a side knows its class. -/
theorem lineSide?_eq_some_iff (line : Line) :
    lineSide? word = some line ↔ (WordClass.lineSide line).Has word := by
  have injective : ∀ one other, WordClass.lineSide one = .lineSide other → one = other :=
    fun _ _ => WordClass.lineSide.inj
  rw [lineSide?, ite_eq_some_iff_has injective (hasStem_iff maternalStems word)
    (ite_eq_some_iff_has injective (hasStem_iff paternalStems word)
      (none_eq_some_iff_has WordClass.lineSide))]
  cases line <;> simp

/-- The lookup of a rank knows its class. -/
theorem rank?_eq_some_iff (rank : Rank) :
    rank? word = some rank ↔ (WordClass.rank rank).Has word := by
  have injective : ∀ one other, WordClass.rank one = .rank other → one = other :=
    fun _ _ => WordClass.rank.inj
  rw [rank?, ite_eq_some_iff_has injective (hasStem_iff youngerStems word)
    (ite_eq_some_iff_has injective (hasStem_iff olderStems word)
      (none_eq_some_iff_has WordClass.rank))]
  cases rank <;> simp

/-- The lookup of a sibling knows its class. -/
theorem siblingWord?_eq_some_iff (sibling : SiblingWord) :
    siblingWord? word = some sibling ↔ (WordClass.sibling sibling).Has word := by
  have injective : ∀ one other, WordClass.sibling one = .sibling other → one = other :=
    fun _ _ => WordClass.sibling.inj
  rw [siblingWord?, ite_eq_some_iff_has injective (hasStem_iff sisterStems word)
    (ite_eq_some_iff_has injective (hasStem_iff brotherStems word)
      (none_eq_some_iff_has WordClass.sibling))]
  cases sibling <;> simp

/-- The preposition is one word. -/
theorem isLinePreposition_iff : isLinePreposition word ↔ WordClass.linePreposition.Has word := by
  simp [isLinePreposition, WordClass.Has, WordClass.patterns]

/-- The test for the word for a line knows its class. -/
theorem isLineWord_iff : isLineWord word ↔ WordClass.lineWord.Has word :=
  hasStem_iff lineStems word

/-- The test for a filler knows its class. -/
theorem isFiller_iff : isFiller word ↔ WordClass.filler.Has word :=
  contains_forms_iff fillers word

end Vocabulary

end Kindred
