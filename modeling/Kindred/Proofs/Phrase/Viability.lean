import Kindred.Proofs.Phrase.Acceptance

/-! The error of a phrase points at the first word with which no sentence goes on. -/

namespace Kindred

/-- Some sentence begins with the tokens. -/
def Viable (tokens : List Token) : Prop :=
  ∃ more sentence, Sentence.ofTokens (tokens ++ more) = .ok sentence

/-- Some sentence begins with the words. -/
def ViableWords (words : List String) : Prop :=
  ∃ (more : List String) (parts : SentenceParts) (sentence : Sentence),
    parts.words = words ++ more ∧ parts.Tell sentence

/-- Only the words of the tokens matter. -/
theorem viable_iff (tokens : List Token) : Viable tokens ↔ ViableWords (tokens.map Token.text) := by
  constructor
  · rintro ⟨more, sentence, read⟩
    obtain ⟨parts, words, tell⟩ := (Sentence.ofTokens_eq_ok_iff _ _).mp read
    exact ⟨more.map Token.text, parts, sentence, by simpa using words, tell⟩
  · rintro ⟨more, parts, sentence, words, tell⟩
    -- Words become tokens at any place.
    refine ⟨more.map fun word => ⟨word, 0⟩, sentence, Sentence.ofTokens_of_tell ?_ tell⟩
    simpa [Function.comp_def] using words

/-- What begins a viable list of words is viable. -/
theorem ViableWords.of_append {words more : List String} (viable : ViableWords (words ++ more)) :
    ViableWords words := by
  obtain ⟨rest, parts, sentence, same, tell⟩ := viable
  exact ⟨more ++ rest, parts, sentence, by simpa using same, tell⟩

namespace ParseError

/-- What an error says about the word at its place, where it says something: that word, or the end. -/
def found? : ParseError → Option (Option String)
  | .emptyInput => none
  | .unknownPronoun _ found => some found
  | .unknownRelationTerm _ found => some found
  | .missingLineClause _ _ found => some found
  | .malformedLineClause _ _ found => some found
  | .unexpectedLineClause _ _ => none
  | .missingSiblingWord _ found => some found

/-- The words that an error asks for: one of the expected class, or none where no class is expected. -/
def Asks (error : ParseError) (wanted : List String) : Prop :=
  match error.expected? with
  | some expected => ∃ word, wanted = [word] ∧ expected.Covers word
  | none => wanted = []

end ParseError

/-- Each class covers some word. -/
theorem Expected.exists_covers (expected : Expected) : ∃ word, expected.Covers word := by
  cases expected with
  | pronoun => exact ⟨"его", .his, (Vocabulary.pronoun?_eq_some_iff _).mp (by decide)⟩
  | relationTerm => exact ⟨"мать", .mother, (Vocabulary.relationTerm?_eq_some_iff _).mp (by decide)⟩
  | linePreposition => exact ⟨"по", rfl⟩
  | lineSide => exact ⟨"материнской", .maternal, (Vocabulary.lineSide?_eq_some_iff _).mp (by decide)⟩
  | lineWord => exact ⟨"линии", Vocabulary.isLineWord_iff.mp (by decide)⟩
  | siblingWord => exact ⟨"сестра", .sister, (Vocabulary.siblingWord?_eq_some_iff _).mp (by decide)⟩

/-- Some words answer an error. -/
theorem ParseError.exists_asks (error : ParseError) : ∃ wanted, error.Asks wanted := by
  unfold Asks
  cases error.expected? with
  | none => exact ⟨[], rfl⟩
  | some expected =>
    obtain ⟨word, covers⟩ := expected.exists_covers
    exact ⟨[word], word, rfl, covers⟩

/-- A line that breaks off is completed behind the words that its error asks for. -/
theorem LineStops.completed {noun : String} {next : Option String} {words wanted : List String}
    {error : Nat → ParseError} {place : Nat} (stops : LineStops noun next words error)
    (asked : (error place).Asks wanted) :
    ∃ more line, LineWords (words ++ (wanted ++ more)) line := by
  obtain ⟨side, line, sides⟩ := Expected.exists_covers .lineSide
  obtain ⟨lineWord, closes⟩ := Expected.exists_covers .lineWord
  cases stops with
  | preposition =>
    obtain ⟨_, rfl, rfl⟩ := asked
    exact ⟨[side, lineWord], line, .clause sides closes⟩
  | side =>
    obtain ⟨_, rfl, _, sides⟩ := asked
    exact ⟨[lineWord], _, .clause sides closes⟩
  | lineWord sides =>
    obtain ⟨_, rfl, closes⟩ := asked
    exact ⟨[], _, .clause sides closes⟩

/-- The words in front of the end of a relative's name are completed by a line where one is needed. -/
theorem exists_relativeWords {owner noun : String} {pronoun : Pronoun} {term : RelationTerm}
    (owns : (WordClass.pronoun pronoun).Has owner) (names : (WordClass.relative term).Has noun) :
    ∃ more spec, RelativeWords (owner :: noun :: more) spec := by
  obtain ⟨side, line, sides⟩ := Expected.exists_covers .lineSide
  obtain ⟨lineWord, closes⟩ := Expected.exists_covers .lineWord
  cases grand : term.isGrandparent with
  | false => exact ⟨[], _, .parent owns names grand⟩
  | true => exact ⟨_, _, .grandparent owns names grand (.clause sides closes)⟩

/-- The words for a relative that break off are completed behind the words that their error asks for. -/
theorem RelativeStops.completed {next : Option String} {words wanted : List String}
    {error : Nat → ParseError} {place : Nat} (stops : RelativeStops next words error)
    (asked : (error place).Asks wanted) :
    ∃ more spec, RelativeWords (words ++ (wanted ++ more)) spec := by
  cases stops with
  | owner =>
    obtain ⟨_, rfl, _, owns⟩ := asked
    obtain ⟨noun, _, names⟩ := Expected.exists_covers .relationTerm
    obtain ⟨more, spec, relative⟩ := exists_relativeWords owns names
    exact ⟨noun :: more, spec, relative⟩
  | noun owns =>
    obtain ⟨_, rfl, _, names⟩ := asked
    exact exists_relativeWords owns names
  | surplus owns names isParent =>
    -- The parent needs no further word.
    have nothing : wanted = [] := asked
    subst nothing
    exact ⟨[], _, .parent owns names isParent⟩
  | line owns names isGrandparent stops =>
    obtain ⟨more, line, descends⟩ := stops.completed asked
    exact ⟨more, _, .grandparent owns names isGrandparent descends⟩

/-- The words between two relatives that break off are completed by the sibling that their error asks for. -/
theorem ConnectorStops.completed {next : Option String} {words wanted : List String}
    {error : Nat → ParseError} {place : Nat} (stops : ConnectorStops next words error)
    (asked : (error place).Asks wanted) :
    ∃ fillers ranks noun connector, words ++ wanted = fillers ++ (ranks ++ [noun]) ∧
      ConnectorWords fillers ranks noun connector := by
  cases stops with
  | unranked skipped =>
    obtain ⟨noun, rfl, sibling, names⟩ := asked
    exact ⟨words, [], noun, ⟨none, _, sibling⟩, rfl, skipped, .absent, names, rfl⟩
  | @ranked fillers rankWord rank skipped ranks =>
    obtain ⟨noun, rfl, sibling, names⟩ := asked
    exact ⟨fillers, [rankWord], noun, ⟨some rank, _, sibling⟩, by simp, skipped, .present ranks,
      names, rfl⟩

/-- The words for a relative and a connector begin a sentence. -/
theorem viableWords_of_connector {left fillers ranks : List String} {noun : String}
    {spec : RelativeSpec} {connector : Connector} (before : RelativeWords left spec)
    (between : ConnectorWords fillers ranks noun connector) :
    ViableWords (left ++ (fillers ++ (ranks ++ [noun]))) := by
  -- Any relative can follow.
  obtain ⟨owner, _, owns⟩ := Expected.exists_covers .pronoun
  obtain ⟨term, _, names⟩ := Expected.exists_covers .relationTerm
  obtain ⟨more, other, after⟩ := exists_relativeWords owns names
  refine ⟨owner :: term :: more, ⟨left, fillers, ranks, noun, owner :: term :: more, []⟩,
    ⟨spec, connector, other⟩, ?_, before, between, after, fun _ => by simp⟩
  simp [SentenceParts.words]

/-- The words for a relative begin a sentence. -/
theorem viableWords_of_relative {left : List String} {spec : RelativeSpec}
    (before : RelativeWords left spec) : ViableWords left := by
  obtain ⟨noun, sibling, names⟩ := Expected.exists_covers .siblingWord
  have between : ConnectorWords [] [] noun ⟨none, noun, sibling⟩ := ⟨by simp, .absent, names, rfl⟩
  exact (viableWords_of_connector before between).of_append

/-- Words that break off begin a sentence, also with the words that their error asks for. -/
theorem SentenceStops.viable {next : Option String} {words wanted : List String}
    {error : Nat → ParseError} {place : Nat} (stops : SentenceStops next words error)
    (asked : (error place).Asks wanted) : ViableWords (words ++ wanted) := by
  cases stops with
  | left stops =>
    obtain ⟨more, spec, before⟩ := stops.completed asked
    rw [← List.append_assoc] at before
    exact (viableWords_of_relative before).of_append
  | connector before _ stops =>
    obtain ⟨fillers, ranks, noun, connector, same, between⟩ := stops.completed asked
    rw [List.append_assoc, same]
    exact viableWords_of_connector before between
  | @right left fillers ranks words noun spec connector _ before between stops =>
    obtain ⟨more, other, after⟩ := stops.completed asked
    refine ⟨more, ⟨left, fillers, ranks, noun, words ++ (wanted ++ more), []⟩,
      ⟨spec, connector, other⟩, ?_, before, between, after, fun _ => by simp⟩
    simp [SentenceParts.words]

/-- With the word that they break off at, words begin no sentence. -/
theorem SentenceStops.not_viable {used rest : List Token} {token : Token} {error : Nat → ParseError}
    (stops : SentenceStops (wordOf? (token :: rest)) (used.map Token.text) error) :
    ¬Viable (used ++ [token]) := by
  -- Whatever comes behind that word, the reader fails in front of it.
  rintro ⟨more, sentence, read⟩
  have fails : Sentence.ofTokens (used ++ token :: more) = .error _ :=
    Sentence.ofTokens_of_stops stops (by simp)
  rw [List.append_assoc, List.singleton_append, fails] at read
  cases read

/-- What an error of words that break off shows: its place and the next word, but no word where a line begins
behind a parent. -/
structure ParseError.Shows (error : ParseError) (place : Nat) (next : Option String) : Prop where
  position : error.position = place
  nonempty : error ≠ .emptyInput
  found : error.found? = some next ∨ (error.found? = none ∧ next.isSome)

/-- The error of words for a relative that break off shows where they do. -/
theorem RelativeStops.shows {next : Option String} {words : List String} {error : Nat → ParseError}
    (stops : RelativeStops next words error) (place : Nat) : (error place).Shows place next := by
  cases stops with
  | owner | noun => exact ⟨rfl, nofun, .inl rfl⟩
  | surplus _ _ _ begins => exact ⟨rfl, nofun, .inr ⟨rfl, by simp [begins]⟩⟩
  | line _ _ _ stops => cases stops <;> exact ⟨rfl, nofun, .inl rfl⟩

/-- The error of words that break off shows where they do. -/
theorem SentenceStops.shows {next : Option String} {words : List String} {error : Nat → ParseError}
    (stops : SentenceStops next words error) (place : Nat) : (error place).Shows place next := by
  cases stops with
  | left stops | right _ _ stops => exact stops.shows place
  | connector _ _ stops => cases stops <;> exact ⟨rfl, nofun, .inl rfl⟩

/-- The error points at the first token with which no sentence goes on, or behind the last token: it shows
the word there, and a word of the class that it expects would go on. -/
structure PointsAtFirstImpossible (tokens : List Token) (error : ParseError) : Prop where
  inside : error.position ≤ tokens.length
  before : Viable (tokens.take error.position)
  past : error.position < tokens.length → ¬Viable (tokens.take (error.position + 1))
  found : ∀ found, error.found? = some found →
    found = tokens[error.position]?.map Token.text ∧
      (found = none ↔ error.position = tokens.length)
  viable_iff : Viable tokens ↔ error = .emptyInput ∨ error.found? = some none
  goesOn : ∀ expected, error.expected? = some expected → ∀ token : Token,
    expected.Covers token.text → Viable (tokens.take error.position ++ [token])

/-- The place of the next token is the number of tokens in front of it. -/
theorem placeOf_length {used rest : List Token}
    (counted : (used ++ rest).map Token.position = List.range (used ++ rest).length) :
    placeOf (used ++ rest).length rest = used.length := by
  cases rest with
  | nil => simp [placeOf]
  | cons token rest =>
    -- The place stands at that index of the counted places.
    have there := congrArg (·[used.length]?) counted
    simpa [placeOf] using there

/-- Some sentence begins with no tokens. -/
theorem viable_nil : Viable [] := by
  obtain ⟨wanted, asked⟩ := ParseError.exists_asks (.unknownPronoun 0 none)
  have stops : SentenceStops none [] (.unknownPronoun · none) := .left (.owner nofun)
  exact (viable_iff []).mpr (stops.viable asked).of_append

/-- Where counted tokens are not read, the error points at the first one with which no sentence goes on. -/
theorem Sentence.pointsAtFirstImpossible {tokens : List Token} {error : ParseError}
    (counted : tokens.map Token.position = List.range tokens.length)
    (failed : ofTokens tokens = .error error) : PointsAtFirstImpossible tokens error := by
  rcases (ofTokens_eq_error_iff tokens error).mp failed with
    ⟨rfl, rfl⟩ | ⟨_, used, rest, made, rfl, stops, rfl⟩
  · -- Any sentence begins with no words.
    exact ⟨Nat.le_refl 0, viable_nil, nofun, nofun, by simp [viable_nil], nofun⟩
  · rw [placeOf_length counted]
    obtain ⟨position, nonempty, shown⟩ := stops.shows used.length
    obtain ⟨wanted, asked⟩ := (made used.length).exists_asks
    have before : Viable used := (viable_iff used).mpr (stops.viable asked).of_append
    have goesOn : ∀ expected, (made used.length).expected? = some expected → ∀ token : Token,
        expected.Covers token.text → Viable (used ++ [token]) := by
      intro expected awaited token covers
      have answered : (made used.length).Asks [token.text] := by
        simp only [ParseError.Asks, awaited]
        exact ⟨token.text, rfl, covers⟩
      exact (viable_iff _).mpr (by simpa using stops.viable answered)
    cases rest with
    | nil =>
      -- The phrase ends, and the error says so.
      have atEnd : (made used.length).found? = some none := by simpa [wordOf?] using shown
      refine ⟨by simp [position], by simpa [position], by simp [position], ?_, ?_, ?_⟩
      · rw [atEnd, position]
        rintro _ ⟨⟩
        simp
      · simpa [atEnd] using before
      · simpa [position] using goesOn
    | cons token rest =>
      -- The next token is the first one that cannot follow.
      have impossible := stops.not_viable
      refine ⟨by simp [position], by simpa [position], ?_, ?_, ?_, ?_⟩
      · intro _
        have first : (used ++ token :: rest).take (used.length + 1) = used ++ [token] := by
          simp [List.take_append, List.take_of_length_le]
        rwa [position, first]
      · intro found there
        have shows : some token.text = found := by simpa [there, wordOf?, eq_comm] using shown
        subst shows
        simp [position]
      · constructor
        · rintro ⟨more, sentence, read⟩
          exact absurd ⟨rest ++ more, sentence, by simpa using read⟩ impossible
        · rintro (empty | atEnd)
          · exact absurd empty nonempty
          · simp [atEnd, wordOf?] at shown
      · simpa [position] using goesOn

/-- A line behind the parent that a sentence ends with is such a place. -/
theorem Sentence.pointsAtFirstImpossible_surplus_line :
    let tokens : List Token :=
      [⟨"его", 0⟩, ⟨"мать", 1⟩, ⟨"сестра", 2⟩, ⟨"ее", 3⟩, ⟨"матери", 4⟩, ⟨"по", 5⟩, ⟨"линии", 6⟩]
    tokens.map Token.position = List.range tokens.length ∧
      ofTokens tokens = .error (.unexpectedLineClause "матери" 5) ∧
      PointsAtFirstImpossible tokens (.unexpectedLineClause "матери" 5) :=
  ⟨rfl, rfl, pointsAtFirstImpossible rfl rfl⟩

end Kindred
