import Kindred.Phrase.Grammar
import Kindred.Proofs.Phrase.Vocabulary

/-! The grammar of the sentences, and the places where a phrase can leave it: a phrase is a sentence or
breaks off at one of these places, and the reader finds the one or fails at the other. -/

namespace Kindred

/-- A word can come where the class is expected. -/
def Expected.Covers : Expected → String → Prop
  | .pronoun, word => ∃ pronoun, (WordClass.pronoun pronoun).Has word
  | .relationTerm, word => ∃ term, (WordClass.relative term).Has word
  | .linePreposition, word => word = "по"
  | .lineSide, word => ∃ line, (WordClass.lineSide line).Has word
  | .lineWord, word => WordClass.lineWord.Has word
  | .siblingWord, word => ∃ sibling, (WordClass.sibling sibling).Has word

/-- The next word is not of the expected class, or there is none. -/
def Lacks (next : Option String) (expected : Expected) : Prop :=
  -- The end of a phrase lacks everything.
  ∀ word, next = some word → ¬expected.Covers word

/-- The words of a line: the preposition, a side and the word for a line. -/
inductive LineWords : List String → Line → Prop
  | clause {side lineWord : String} {line : Line} (sides : (WordClass.lineSide line).Has side)
    (closes : WordClass.lineWord.Has lineWord) : LineWords ["по", side, lineWord] line

/-- The words that name a relative: a parent, or a grandparent with a line. -/
inductive RelativeWords : List String → RelativeSpec → Prop
  | parent {owner noun : String} {pronoun : Pronoun} {term : RelationTerm}
    (owns : (WordClass.pronoun pronoun).Has owner) (names : (WordClass.relative term).Has noun)
    (isParent : term.isGrandparent = false) :
    RelativeWords [owner, noun] ⟨pronoun, term, none⟩
  | grandparent {owner noun : String} {words : List String} {pronoun : Pronoun}
    {term : RelationTerm} {line : Line} (owns : (WordClass.pronoun pronoun).Has owner)
    (names : (WordClass.relative term).Has noun) (isGrandparent : term.isGrandparent = true)
    (descends : LineWords words line) :
    RelativeWords (owner :: noun :: words) ⟨pronoun, term, some line⟩

/-- The words for a relative can end in front of the next word. -/
def RelativeSpec.EndsBefore (spec : RelativeSpec) (next : Option String) : Prop :=
  -- Behind a parent the preposition would begin a line, and only grandparents have one.
  spec.term.isGrandparent = false → next ≠ some "по"

/-- The word for a rank, or nothing. -/
inductive RankWords : List String → Option Rank → Prop
  | absent : RankWords [] none
  | present {word : String} {rank : Rank} (ranks : (WordClass.rank rank).Has word) :
    RankWords [word] (some rank)

/-- The words between the two relatives: any fillers, perhaps a rank, and a sibling. -/
structure ConnectorWords (fillers ranks : List String) (noun : String) (connector : Connector) :
    Prop where
  skipped : ∀ word ∈ fillers, WordClass.filler.Has word
  rank : RankWords ranks connector.rank
  sibling : (WordClass.sibling connector.sibling).Has noun
  wording : connector.wording = " ".intercalate (ranks ++ [noun])

/-- The words of a line break off, in front of the next word and with an error at its place. -/
inductive LineStops (noun : String) (next : Option String) :
    List String → (Nat → ParseError) → Prop
  | preposition (lacks : Lacks next .linePreposition) :
    LineStops noun next [] (.missingLineClause noun · next)
  | side (lacks : Lacks next .lineSide) :
    LineStops noun next ["по"] (.malformedLineClause .lineSide · next)
  | lineWord {side : String} {line : Line} (sides : (WordClass.lineSide line).Has side)
    (lacks : Lacks next .lineWord) :
    LineStops noun next ["по", side] (.malformedLineClause .lineWord · next)

/-- The words for a relative break off. -/
inductive RelativeStops (next : Option String) : List String → (Nat → ParseError) → Prop
  | owner (lacks : Lacks next .pronoun) : RelativeStops next [] (.unknownPronoun · next)
  | noun {owner : String} {pronoun : Pronoun} (owns : (WordClass.pronoun pronoun).Has owner)
    (lacks : Lacks next .relationTerm) : RelativeStops next [owner] (.unknownRelationTerm · next)
  /-- A parent has no line. -/
  | surplus {owner noun : String} {pronoun : Pronoun} {term : RelationTerm}
    (owns : (WordClass.pronoun pronoun).Has owner) (names : (WordClass.relative term).Has noun)
    (isParent : term.isGrandparent = false) (begins : next = some "по") :
    RelativeStops next [owner, noun] (.unexpectedLineClause noun ·)
  | line {owner noun : String} {words : List String} {pronoun : Pronoun} {term : RelationTerm}
    {error : Nat → ParseError} (owns : (WordClass.pronoun pronoun).Has owner)
    (names : (WordClass.relative term).Has noun) (isGrandparent : term.isGrandparent = true)
    (stops : LineStops noun next words error) : RelativeStops next (owner :: noun :: words) error

/-- The words between the relatives break off. -/
inductive ConnectorStops (next : Option String) : List String → (Nat → ParseError) → Prop
  | unranked {fillers : List String} (skipped : ∀ word ∈ fillers, WordClass.filler.Has word)
    (ended : ∀ word, next = some word →
      ¬WordClass.filler.Has word ∧ ¬∃ rank, (WordClass.rank rank).Has word)
    (lacks : Lacks next .siblingWord) :
    ConnectorStops next fillers (.missingSiblingWord · next)
  | ranked {fillers : List String} {rankWord : String} {rank : Rank}
    (skipped : ∀ word ∈ fillers, WordClass.filler.Has word)
    (ranks : (WordClass.rank rank).Has rankWord) (lacks : Lacks next .siblingWord) :
    ConnectorStops next (fillers ++ [rankWord]) (.missingSiblingWord · next)

/-- A class without a meaning is found in its members. -/
theorem mark?_eq_some {isMember : String → Bool} {word : String} (member : isMember word) :
    mark? isMember word = some () :=
  if_pos member

/-- The preposition is one word. -/
theorem isLinePreposition_iff_eq {word : String} :
    Vocabulary.isLinePreposition word ↔ word = "по" := by
  simp [Vocabulary.isLinePreposition]

section Expect

variable {α : Type} {meaning? : String → Option α} (error : Nat → Option String → ParseError)
  (size : Nat)

/-- A word with a meaning is taken. -/
theorem expect_eq_ok {token : Token} {meaning : α} (found : meaning? token.text = some meaning)
    (rest : List Token) :
    expect meaning? error size (token :: rest) = .ok (meaning, token.text, rest) := by
  simp [expect, accept?, found]

/-- Where the next word has no meaning, the error tells its place. -/
theorem expect_eq_error {tokens : List Token}
    (nothing : ∀ word, wordOf? tokens = some word → meaning? word = none) :
    expect meaning? error size tokens =
      .error (error (placeOf size tokens) (wordOf? tokens)) := by
  cases tokens with
  | nil => rfl
  | cons token rest => simp [expect, accept?, nothing token.text rfl]

/-- A lookup finds nothing in a word of none of its classes. -/
theorem expect_eq_error_of_lacks {cls : α → WordClass} {tokens : List Token}
    (knows : ∀ {word} meaning, meaning? word = some meaning ↔ (cls meaning).Has word)
    (lacks : ∀ word, wordOf? tokens = some word → ¬∃ meaning, (cls meaning).Has word) :
    expect meaning? error size tokens =
      .error (error (placeOf size tokens) (wordOf? tokens)) := by
  refine expect_eq_error error size fun word there => ?_
  exact Option.eq_none_iff_forall_ne_some.mpr fun meaning found =>
    lacks word there ⟨meaning, (knows meaning).mp found⟩

/-- A class without a meaning is not found in other words. -/
theorem expect_mark_eq_error_of_lacks {isMember : String → Bool} {member : String → Prop}
    {tokens : List Token} (knows : ∀ {word}, isMember word ↔ member word)
    (lacks : ∀ word, wordOf? tokens = some word → ¬member word) :
    expect (mark? isMember) error size tokens =
      .error (error (placeOf size tokens) (wordOf? tokens)) := by
  refine expect_eq_error error size fun word there => ?_
  exact if_neg fun found => lacks word there (knows.mp found)

end Expect

/-- The words of a line are read, whatever comes behind them. -/
theorem LineWords.read {used : List Token} {line : Line}
    (words : LineWords (used.map Token.text) line) (noun : String) (size : Nat) (rest : List Token) :
    readLineClause noun size (used ++ rest) = .ok (line, rest) := by
  -- Every word is taken by the reader of its class.
  generalize told : used.map Token.text = texts at words
  obtain ⟨sides, closes⟩ := words
  simp only [List.map_eq_cons_iff, List.map_eq_nil_iff] at told
  obtain ⟨preposition, _, rfl, spelled, side, _, rfl, rfl, lineWord, _, rfl, rfl, rfl⟩ := told
  simp [readLineClause, expect_eq_ok _ _ (mark?_eq_some (isLinePreposition_iff_eq.mpr spelled)),
    expect_eq_ok _ _ ((Vocabulary.lineSide?_eq_some_iff _).mpr sides),
    expect_eq_ok _ _ (mark?_eq_some (Vocabulary.isLineWord_iff.mpr closes)), bind, Except.bind,
    pure, Except.pure]

/-- Where the words of a line break off, the reader fails. -/
theorem LineStops.read {used rest : List Token} {noun : String} {error : Nat → ParseError}
    (stops : LineStops noun (wordOf? rest) (used.map Token.text) error) (size : Nat) :
    readLineClause noun size (used ++ rest) = .error (error (placeOf size rest)) := by
  -- The words in front are taken, and the next one is not.
  generalize told : used.map Token.text = texts at stops
  cases stops with
  | preposition lacks =>
    cases List.map_eq_nil_iff.mp told
    simp [readLineClause, expect_mark_eq_error_of_lacks _ _ isLinePreposition_iff_eq lacks, bind,
      Except.bind]
  | side lacks =>
    simp only [List.map_eq_cons_iff, List.map_eq_nil_iff] at told
    obtain ⟨preposition, _, rfl, spelled, rfl⟩ := told
    simp [readLineClause, expect_eq_ok _ _ (mark?_eq_some (isLinePreposition_iff_eq.mpr spelled)),
      expect_eq_error_of_lacks _ _ Vocabulary.lineSide?_eq_some_iff lacks, bind, Except.bind]
  | lineWord sides lacks =>
    simp only [List.map_eq_cons_iff, List.map_eq_nil_iff] at told
    obtain ⟨preposition, _, rfl, spelled, side, _, rfl, rfl, rfl⟩ := told
    simp [readLineClause, expect_eq_ok _ _ (mark?_eq_some (isLinePreposition_iff_eq.mpr spelled)),
      expect_eq_ok _ _ ((Vocabulary.lineSide?_eq_some_iff _).mpr sides),
      expect_mark_eq_error_of_lacks _ _ Vocabulary.isLineWord_iff lacks, bind, Except.bind]

/-- Behind the words for a parent the reader only looks for a surplus line. -/
theorem readRelative_parent {owner noun : Token} {pronoun : Pronoun} {term : RelationTerm}
    (owns : (WordClass.pronoun pronoun).Has owner.text)
    (names : (WordClass.relative term).Has noun.text) (isParent : term.isGrandparent = false)
    (size : Nat) (rest : List Token) :
    readRelative size (owner :: noun :: rest) =
      if wordOf? rest = some "по" then .error (.unexpectedLineClause noun.text (placeOf size rest))
      else .ok (⟨pronoun, term, none⟩, rest) := by
  have asked : (wordOf? rest).any Vocabulary.isLinePreposition = decide (wordOf? rest = some "по") := by
    cases wordOf? rest <;> simp [Vocabulary.isLinePreposition]
  simp [readRelative, expect_eq_ok _ _ ((Vocabulary.pronoun?_eq_some_iff _).mpr owns),
    expect_eq_ok _ _ ((Vocabulary.relationTerm?_eq_some_iff _).mpr names), isParent, asked, bind,
    Except.bind, pure, Except.pure, throw, throwThe, MonadExceptOf.throw]

/-- Behind the words for a grandparent the reader asks for a line. -/
theorem readRelative_grandparent {owner noun : Token} {pronoun : Pronoun} {term : RelationTerm}
    (owns : (WordClass.pronoun pronoun).Has owner.text)
    (names : (WordClass.relative term).Has noun.text) (isGrandparent : term.isGrandparent = true)
    (size : Nat) (rest : List Token) :
    readRelative size (owner :: noun :: rest) =
      (readLineClause noun.text size rest).map fun read =>
        (⟨pronoun, term, some read.1⟩, read.2) := by
  cases clause : readLineClause noun.text size rest <;>
    simp [readRelative, expect_eq_ok _ _ ((Vocabulary.pronoun?_eq_some_iff _).mpr owns),
      expect_eq_ok _ _ ((Vocabulary.relationTerm?_eq_some_iff _).mpr names), isGrandparent, clause,
      bind, Except.bind, pure, Except.pure, Except.map]

/-- The words for a relative are read where they can end. -/
theorem RelativeWords.read {used : List Token} {spec : RelativeSpec}
    (words : RelativeWords (used.map Token.text) spec) (size : Nat) (rest : List Token)
    (ends : spec.EndsBefore (wordOf? rest)) : readRelative size (used ++ rest) = .ok (spec, rest) := by
  generalize told : used.map Token.text = texts at words
  cases words with
  | parent owns names isParent =>
    -- No line begins behind a parent.
    simp only [List.map_eq_cons_iff, List.map_eq_nil_iff] at told
    obtain ⟨owner, _, rfl, rfl, noun, _, rfl, rfl, rfl⟩ := told
    exact (readRelative_parent owns names isParent size rest).trans (if_neg (ends isParent))
  | grandparent owns names isGrandparent descends =>
    -- The words of the line are read behind a grandparent.
    simp only [List.map_eq_cons_iff] at told
    obtain ⟨owner, _, rfl, rfl, noun, clause, rfl, rfl, rfl⟩ := told
    simp [readRelative_grandparent owns names isGrandparent, descends.read, Except.map]

/-- Where the words for a relative break off, the reader fails. -/
theorem RelativeStops.read {used rest : List Token} {error : Nat → ParseError}
    (stops : RelativeStops (wordOf? rest) (used.map Token.text) error) (size : Nat) :
    readRelative size (used ++ rest) = .error (error (placeOf size rest)) := by
  -- The words in front are taken, and the next one is not.
  generalize told : used.map Token.text = texts at stops
  cases stops with
  | owner lacks =>
    cases List.map_eq_nil_iff.mp told
    simp [readRelative, expect_eq_error_of_lacks _ _ Vocabulary.pronoun?_eq_some_iff lacks, bind,
      Except.bind]
  | noun owns lacks =>
    simp only [List.map_eq_cons_iff, List.map_eq_nil_iff] at told
    obtain ⟨owner, _, rfl, rfl, rfl⟩ := told
    simp [readRelative, expect_eq_ok _ _ ((Vocabulary.pronoun?_eq_some_iff _).mpr owns),
      expect_eq_error_of_lacks _ _ Vocabulary.relationTerm?_eq_some_iff lacks, bind, Except.bind]
  | surplus owns names isParent begins =>
    simp only [List.map_eq_cons_iff, List.map_eq_nil_iff] at told
    obtain ⟨owner, _, rfl, rfl, noun, _, rfl, rfl, rfl⟩ := told
    exact (readRelative_parent owns names isParent size rest).trans (if_pos begins)
  | line owns names isGrandparent stops =>
    simp only [List.map_eq_cons_iff] at told
    obtain ⟨owner, _, rfl, rfl, noun, clause, rfl, rfl, rfl⟩ := told
    simp [readRelative_grandparent owns names isGrandparent, stops.read, Except.map]

/-- Fillers are skipped up to the first other word. -/
theorem skipFillers_append {fillers rest : List Token}
    (skipped : ∀ word ∈ fillers.map Token.text, WordClass.filler.Has word)
    (ended : ∀ word, wordOf? rest = some word → ¬WordClass.filler.Has word) :
    skipFillers (fillers ++ rest) = rest := by
  -- The fillers go one by one, and the other word stays.
  have all : ∀ token ∈ fillers, Vocabulary.isFiller token.text := fun token member =>
    Vocabulary.isFiller_iff.mpr (skipped token.text (List.mem_map_of_mem member))
  rw [skipFillers, List.dropWhile_append_of_pos all]
  cases rest with
  | nil => rfl
  | cons token rest =>
    have stays : ¬Vocabulary.isFiller token.text := fun found =>
      ended token.text rfl (Vocabulary.isFiller_iff.mp found)
    simp [stays]

/-- A rank is no filler, and a sibling is neither. -/
theorem connector_classes {word : String} :
    ((∃ rank, (WordClass.rank rank).Has word) → ¬WordClass.filler.Has word) ∧
      ((∃ sibling, (WordClass.sibling sibling).Has word) →
        ¬WordClass.filler.Has word ∧ ¬∃ rank, (WordClass.rank rank).Has word) := by
  -- No word is of two classes.
  refine ⟨?_, ?_⟩
  · rintro ⟨rank, ranks⟩ fills
    cases ranks.unique fills
  · rintro ⟨sibling, names⟩
    refine ⟨fun fills => ?_, ?_⟩
    · cases names.unique fills
    · rintro ⟨rank, ranks⟩
      cases names.unique ranks

/-- A connector with a rank is read behind its fillers. -/
theorem readConnector_ranked {fillers rest : List Token} {rankWord : Token} {rank : Rank}
    (skipped : ∀ word ∈ fillers.map Token.text, WordClass.filler.Has word)
    (ranks : (WordClass.rank rank).Has rankWord.text) (size : Nat) :
    readConnector size (fillers ++ rankWord :: rest) =
      (expect Vocabulary.siblingWord? .missingSiblingWord size rest).map fun read =>
        (⟨some rank, rankWord.text ++ " " ++ read.2.1, read.1⟩, read.2.2) := by
  have behind : skipFillers (fillers ++ rankWord :: rest) = rankWord :: rest := by
    refine skipFillers_append skipped ?_
    intro word there
    exact Option.some.inj there ▸ connector_classes.1 ⟨rank, ranks⟩
  have found : accept? Vocabulary.rank? (rankWord :: rest) = some (rank, rankWord.text, rest) := by
    simp [accept?, (Vocabulary.rank?_eq_some_iff rank).mpr ranks]
  cases read : expect Vocabulary.siblingWord? .missingSiblingWord size rest <;>
    simp [readConnector, behind, found, read, bind, Except.bind, pure, Except.pure, Except.map]

/-- A connector without a rank is read behind its fillers. -/
theorem readConnector_unranked {fillers rest : List Token}
    (skipped : ∀ word ∈ fillers.map Token.text, WordClass.filler.Has word)
    (ended : ∀ word, wordOf? rest = some word →
      ¬WordClass.filler.Has word ∧ ¬∃ rank, (WordClass.rank rank).Has word) (size : Nat) :
    readConnector size (fillers ++ rest) =
      (expect Vocabulary.siblingWord? .missingSiblingWord size rest).map fun read =>
        (⟨none, read.2.1, read.1⟩, read.2.2) := by
  have behind := skipFillers_append skipped fun word there => (ended word there).1
  have nothing : accept? Vocabulary.rank? rest = none := by
    cases rest with
    | nil => rfl
    | cons token rest =>
      have unranked : Vocabulary.rank? token.text = none :=
        Option.eq_none_iff_forall_ne_some.mpr fun rank found =>
          (ended token.text rfl).2 ⟨rank, (Vocabulary.rank?_eq_some_iff rank).mp found⟩
      simp [accept?, unranked]
  cases read : expect Vocabulary.siblingWord? .missingSiblingWord size rest <;>
    simp [readConnector, behind, nothing, read, bind, Except.bind, pure, Except.pure, Except.map]

/-- The words between the relatives are read, whatever comes behind them. -/
theorem ConnectorWords.read {fillers ranks : List Token} {noun : Token} {connector : Connector}
    (words : ConnectorWords (fillers.map Token.text) (ranks.map Token.text) noun.text connector)
    (size : Nat) (rest : List Token) :
    readConnector size (fillers ++ (ranks ++ noun :: rest)) = .ok (connector, rest) := by
  obtain ⟨rank, wording, sibling⟩ := connector
  obtain ⟨skipped, ranked, names, told⟩ := words
  have taken := expect_eq_ok .missingSiblingWord size
    ((Vocabulary.siblingWord?_eq_some_iff _).mpr names) rest
  generalize spelled : ranks.map Token.text = texts at ranked told
  cases ranked with
  | absent =>
    cases List.map_eq_nil_iff.mp spelled
    have ended : ∀ word, wordOf? (noun :: rest) = some word →
        ¬WordClass.filler.Has word ∧ ¬∃ rank, (WordClass.rank rank).Has word := by
      intro word there
      exact Option.some.inj there ▸ connector_classes.2 ⟨_, names⟩
    have same : wording = noun.text := told
    rw [List.nil_append, readConnector_unranked skipped ended, taken, same]
    rfl
  | present ranks =>
    simp only [List.map_eq_cons_iff, List.map_eq_nil_iff] at spelled
    obtain ⟨rankWord, _, rfl, rfl, rfl⟩ := spelled
    have same : wording = rankWord.text ++ " " ++ noun.text := told
    rw [List.singleton_append, readConnector_ranked skipped ranks, taken, same]
    rfl

/-- Where the words between the relatives break off, the reader fails. -/
theorem ConnectorStops.read {used rest : List Token} {error : Nat → ParseError}
    (stops : ConnectorStops (wordOf? rest) (used.map Token.text) error) (size : Nat) :
    readConnector size (used ++ rest) = .error (error (placeOf size rest)) := by
  -- The fillers and the rank are taken, and no sibling follows.
  generalize told : used.map Token.text = texts at stops
  cases stops with
  | unranked skipped ended lacks =>
    subst told
    rw [readConnector_unranked skipped ended,
      expect_eq_error_of_lacks _ _ Vocabulary.siblingWord?_eq_some_iff lacks]
    rfl
  | ranked skipped ranks lacks =>
    obtain ⟨fillers, ranked, rfl, rfl, spelled⟩ := List.map_eq_append_iff.mp told
    simp only [List.map_eq_cons_iff, List.map_eq_nil_iff] at spelled
    obtain ⟨rankWord, _, rfl, rfl, rfl⟩ := spelled
    rw [List.append_assoc, List.singleton_append, readConnector_ranked skipped ranks,
      expect_eq_error_of_lacks _ _ Vocabulary.siblingWord?_eq_some_iff lacks]
    rfl

/-- The next word is covered by an expected class, or lacks it. -/
theorem covers_or_lacks (expected : Expected) (tokens : List Token) :
    (∃ token rest, tokens = token :: rest ∧ expected.Covers token.text) ∨
      Lacks (wordOf? tokens) expected := by
  cases tokens with
  | nil => exact Or.inr (by simp [Lacks, wordOf?])
  | cons token rest =>
    by_cases covered : expected.Covers token.text
    · exact Or.inl ⟨token, rest, rfl, covered⟩
    · exact Or.inr (by simpa [Lacks, wordOf?] using covered)

/-- Tokens begin with a line, or break off. -/
theorem line_words_or_stops (noun : String) (tokens : List Token) :
    (∃ used rest line, tokens = used ++ rest ∧ LineWords (used.map Token.text) line) ∨
      ∃ used rest error, tokens = used ++ rest ∧
        LineStops noun (wordOf? rest) (used.map Token.text) error := by
  -- The three classes are asked for one after the other.
  rcases covers_or_lacks .linePreposition tokens with ⟨⟨_, place⟩, behind, rfl, rfl⟩ | lacks
  · rcases covers_or_lacks .lineSide behind with ⟨side, behind, rfl, line, sides⟩ | lacks
    · rcases covers_or_lacks .lineWord behind with ⟨lineWord, behind, rfl, closes⟩ | lacks
      · exact Or.inl ⟨[⟨"по", place⟩, side, lineWord], behind, line, rfl, .clause sides closes⟩
      · exact Or.inr ⟨[⟨"по", place⟩, side], behind, _, rfl, .lineWord sides lacks⟩
    · exact Or.inr ⟨[⟨"по", place⟩], behind, _, rfl, .side lacks⟩
  · exact Or.inr ⟨[], tokens, _, rfl, .preposition lacks⟩

/-- Tokens begin with the words for a relative and can go on behind them, or break off. -/
theorem relative_words_or_stops (tokens : List Token) :
    (∃ used rest spec, tokens = used ++ rest ∧ RelativeWords (used.map Token.text) spec ∧
      spec.EndsBefore (wordOf? rest)) ∨
      ∃ used rest error, tokens = used ++ rest ∧
        RelativeStops (wordOf? rest) (used.map Token.text) error := by
  rcases covers_or_lacks .pronoun tokens with ⟨owner, behind, rfl, pronoun, owns⟩ | lacks
  case inr => exact Or.inr ⟨[], tokens, _, rfl, .owner lacks⟩
  rcases covers_or_lacks .relationTerm behind with ⟨noun, behind, rfl, term, names⟩ | lacks
  case inr => exact Or.inr ⟨[owner], behind, _, rfl, .noun owns lacks⟩
  -- A parent is followed by anything but a line, and a grandparent by a line.
  cases grand : term.isGrandparent with
  | false =>
    by_cases begins : wordOf? behind = some "по"
    · exact Or.inr ⟨[owner, noun], behind, _, rfl, .surplus owns names grand begins⟩
    · exact Or.inl ⟨[owner, noun], behind, _, rfl, .parent owns names grand, fun _ => begins⟩
  | true =>
    rcases line_words_or_stops noun.text behind with ⟨used, rest, line, rfl, words⟩ |
      ⟨used, rest, error, rfl, stops⟩
    · refine Or.inl ⟨owner :: noun :: used, rest, _, rfl, .grandparent owns names grand words, ?_⟩
      intro isParent
      simp [grand] at isParent
    · exact Or.inr ⟨owner :: noun :: used, rest, error, rfl, .line owns names grand stops⟩

/-- Tokens begin with as many fillers as there are. -/
theorem exists_fillers (tokens : List Token) :
    ∃ fillers rest, tokens = fillers ++ rest ∧
      (∀ word ∈ fillers.map Token.text, WordClass.filler.Has word) ∧
      ∀ word, wordOf? rest = some word → ¬WordClass.filler.Has word := by
  induction tokens with
  | nil => exact ⟨[], [], rfl, by simp, by simp [wordOf?]⟩
  | cons token tokens ih =>
    by_cases fills : WordClass.filler.Has token.text
    · obtain ⟨fillers, rest, rfl, skipped, ended⟩ := ih
      exact ⟨token :: fillers, rest, rfl, by simpa [fills] using skipped, ended⟩
    · exact ⟨[], token :: tokens, rfl, by simp, fun word there => Option.some.inj there ▸ fills⟩

/-- Tokens begin with the words between two relatives, or break off. -/
theorem connector_words_or_stops (tokens : List Token) :
    (∃ fillers ranks noun rest connector, tokens = fillers ++ (ranks ++ noun :: rest) ∧
      ConnectorWords (fillers.map Token.text) (ranks.map Token.text) noun.text connector) ∨
      ∃ used rest error, tokens = used ++ rest ∧
        ConnectorStops (wordOf? rest) (used.map Token.text) error := by
  -- The fillers reach up to the first word that is none.
  obtain ⟨fillers, behind, rfl, skipped, ended⟩ := exists_fillers tokens
  by_cases ranked : ∃ token rest, behind = token :: rest ∧ ∃ rank, (WordClass.rank rank).Has token.text
  · -- A sibling has to follow the rank.
    obtain ⟨rankWord, behind, rfl, rank, ranks⟩ := ranked
    rcases covers_or_lacks .siblingWord behind with ⟨noun, rest, rfl, sibling, names⟩ | lacks
    · exact Or.inl ⟨fillers, [rankWord], noun, rest, ⟨some rank, _, sibling⟩, rfl, skipped,
        .present ranks, names, rfl⟩
    · refine Or.inr ⟨fillers ++ [rankWord], behind, (.missingSiblingWord · (wordOf? behind)), ?_, ?_⟩
      · simp
      · rw [List.map_append]
        exact .ranked skipped ranks lacks
  · -- Without a rank the sibling follows at once.
    rcases covers_or_lacks .siblingWord behind with ⟨noun, rest, rfl, sibling, names⟩ | lacks
    · exact Or.inl ⟨fillers, [], noun, rest, ⟨none, _, sibling⟩, rfl, skipped, .absent, names, rfl⟩
    · refine Or.inr ⟨fillers, behind, _, rfl, .unranked skipped (fun word there => ?_) lacks⟩
      refine ⟨ended word there, fun found => ranked ?_⟩
      cases behind with
      | nil => cases there
      | cons token rest => exact ⟨token, rest, rfl, Option.some.inj there ▸ found⟩

end Kindred
