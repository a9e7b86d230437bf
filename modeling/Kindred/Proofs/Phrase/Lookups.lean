import Kindred.Proofs.Phrase.Vocabulary

/-! At most one lookup of the vocabulary accepts a word, and within a lookup at most one of its alternatives fits, so
that it finds the same in whichever order they are tried. -/

namespace Kindred

namespace Vocabulary

/-- The lookups of the vocabulary. -/
inductive Lookup where
  | pronoun
  | relationTerm
  | linePreposition
  | lineSide
  | lineWord
  | filler
  | rank
  | siblingWord
deriving DecidableEq, Repr

/-- The lookup finds something under a word, or tests it with success. -/
def Lookup.accepts (word : String) : Lookup → Bool
  | .pronoun => (pronoun? word).isSome
  | .relationTerm => (relationTerm? word).isSome
  | .linePreposition => isLinePreposition word
  | .lineSide => (lineSide? word).isSome
  | .lineWord => isLineWord word
  | .filler => isFiller word
  | .rank => (rank? word).isSome
  | .siblingWord => (siblingWord? word).isSome

/-- The word fits the test for a relative. -/
def fitsTerm (word : String) : RelationTerm → Bool
  | .mother => motherForms.contains word
  | .father => fatherForms.contains word
  | .grandfather => hasStem word grandfatherStems
  | .grandmother => hasStem word grandmotherStems

/-- The stems of a side. -/
def sideStems : Line → List String
  | .maternal => maternalStems
  | .paternal => paternalStems

/-- The stems of a rank. -/
def rankStems : Rank → List String
  | .younger => youngerStems
  | .older => olderStems

/-- The stems of a sibling. -/
def siblingStems : SiblingWord → List String
  | .sister => sisterStems
  | .brother => brotherStems

/-- The lookup that knows a class of words. -/
def lookupOf : WordClass → Lookup
  | .pronoun _ => .pronoun
  | .relative _ => .relationTerm
  | .linePreposition => .linePreposition
  | .lineSide _ => .lineSide
  | .lineWord => .lineWord
  | .filler => .filler
  | .rank _ => .rank
  | .sibling _ => .siblingWord

variable {word : String}

/-- A word that a lookup accepts is of a class that it knows. -/
theorem Lookup.exists_has {lookup : Lookup} (accepted : lookup.accepts word) :
    ∃ cls, lookupOf cls = lookup ∧ cls.Has word := by
  -- A lookup that finds something knows the class of what it finds.
  cases lookup with
  | pronoun =>
    obtain ⟨pronoun, found⟩ := Option.isSome_iff_exists.mp accepted
    exact ⟨.pronoun pronoun, rfl, (pronoun?_eq_some_iff pronoun).mp found⟩
  | relationTerm =>
    obtain ⟨term, found⟩ := Option.isSome_iff_exists.mp accepted
    exact ⟨.relative term, rfl, (relationTerm?_eq_some_iff term).mp found⟩
  | linePreposition => exact ⟨.linePreposition, rfl, isLinePreposition_iff.mp accepted⟩
  | lineSide =>
    obtain ⟨line, found⟩ := Option.isSome_iff_exists.mp accepted
    exact ⟨.lineSide line, rfl, (lineSide?_eq_some_iff line).mp found⟩
  | lineWord => exact ⟨.lineWord, rfl, isLineWord_iff.mp accepted⟩
  | filler => exact ⟨.filler, rfl, isFiller_iff.mp accepted⟩
  | rank =>
    obtain ⟨rank, found⟩ := Option.isSome_iff_exists.mp accepted
    exact ⟨.rank rank, rfl, (rank?_eq_some_iff rank).mp found⟩
  | siblingWord =>
    obtain ⟨sibling, found⟩ := Option.isSome_iff_exists.mp accepted
    exact ⟨.sibling sibling, rfl, (siblingWord?_eq_some_iff sibling).mp found⟩

/-- Two lookups that accept one word are the same. -/
theorem Lookup.eq_of_accepts {one other : Lookup} (first : one.accepts word) (second : other.accepts word) :
    one = other := by
  -- The word has one class only.
  obtain ⟨cls, rfl, has⟩ := exists_has first
  obtain ⟨otherClass, rfl, otherHas⟩ := exists_has second
  rw [has.unique otherHas]

/-- At most one of some alternatives fits, and as long as none is left out, the first one that fits is the one found,
whatever their order is. -/
structure AnyOrder {α : Type} (fits : α → Bool) (found : Option α) : Prop where
  unique : ∀ one other, fits one → fits other → one = other
  order : ∀ alternatives : List α, (∀ alternative, alternative ∈ alternatives) → alternatives.find? fits = found

/-- A lookup whose alternatives fit exactly the words of different classes can try them in any order. -/
theorem anyOrder_of_has {α : Type} {cls : α → WordClass} {fits : α → Bool} {found : Option α}
    (injective : ∀ one other, cls one = cls other → one = other)
    (tested : ∀ alternative, fits alternative ↔ (cls alternative).Has word)
    (known : ∀ alternative, found = some alternative ↔ (cls alternative).Has word) : AnyOrder fits found := by
  have unique : ∀ one other, fits one → fits other → one = other := fun one other first second =>
    injective one other (((tested one).mp first).unique ((tested other).mp second))
  refine ⟨unique, fun alternatives complete => ?_⟩
  cases tried : alternatives.find? fits with
  | some first =>
    -- What is found first fits, and so it is of the class of the word.
    exact ((known first).mpr ((tested first).mp (List.find?_some tried))).symm
  | none =>
    -- Nothing fits, so the lookup can have found nothing either.
    refine (Option.eq_none_iff_forall_ne_some.mpr fun meaning here => ?_).symm
    exact List.find?_eq_none.mp tried meaning (complete meaning) ((tested meaning).mpr ((known meaning).mp here))

/-- The test for a relative knows its class. -/
theorem fitsTerm_iff (term : RelationTerm) : fitsTerm word term ↔ (WordClass.relative term).Has word := by
  cases term with
  | mother => exact contains_forms_iff motherForms word
  | father => exact contains_forms_iff fatherForms word
  | grandfather => exact hasStem_iff grandfatherStems word
  | grandmother => exact hasStem_iff grandmotherStems word

/-- A lookup whose alternatives are the stems of different classes can try them in any order. -/
theorem anyOrder_of_stems {α : Type} {cls : α → WordClass} {stems : α → List String} {found : Option α}
    (injective : ∀ one other, cls one = cls other → one = other)
    (looks : ∀ alternative, (cls alternative).patterns = (stems alternative).map .stem)
    (known : ∀ alternative, found = some alternative ↔ (cls alternative).Has word) :
    AnyOrder (fun alternative => hasStem word (stems alternative)) found := by
  refine anyOrder_of_has injective (fun alternative => ?_) known
  rw [WordClass.Has, looks]
  exact hasStem_iff (stems alternative) word

/-- One lookup at most accepts a word, and the lookups with several alternatives find the same in any order of them. -/
structure ReadsOneWay (word : String) : Prop where
  lookups : ∀ one other : Lookup, one.accepts word → other.accepts word → one = other
  relationTerm : AnyOrder (fitsTerm word) (relationTerm? word)
  lineSide : AnyOrder (fun line => hasStem word (sideStems line)) (lineSide? word)
  rank : AnyOrder (fun rank => hasStem word (rankStems rank)) (rank? word)
  siblingWord : AnyOrder (fun sibling => hasStem word (siblingStems sibling)) (siblingWord? word)

/-- Every word is read in one way at most. -/
theorem readsOneWay (word : String) : ReadsOneWay word where
  lookups _ _ := Lookup.eq_of_accepts
  relationTerm := anyOrder_of_has (fun _ _ => WordClass.relative.inj) fitsTerm_iff relationTerm?_eq_some_iff
  lineSide := anyOrder_of_stems (fun _ _ => WordClass.lineSide.inj) (fun line => by cases line <;> rfl)
    lineSide?_eq_some_iff
  rank := anyOrder_of_stems (fun _ _ => WordClass.rank.inj) (fun rank => by cases rank <;> rfl) rank?_eq_some_iff
  siblingWord := anyOrder_of_stems (fun _ _ => WordClass.sibling.inj) (fun sibling => by cases sibling <;> rfl)
    siblingWord?_eq_some_iff

/-- The word for a side begins like a form of the word for a mother, and is not one. -/
example : lineSide? "материнской" = some .maternal ∧ relationTerm? "материнской" = none := by
  decide +kernel

end Vocabulary

end Kindred
