import Kindred.Proofs.Phrase.Grammar

/-! A phrase is read as a sentence exactly when its words are those of one, and in only one way. -/

namespace Kindred

/-- The words of a phrase that begins with a sentence, in their parts. -/
structure SentenceParts where
  left : List String
  fillers : List String
  ranks : List String
  noun : String
  right : List String
  rest : List String

namespace SentenceParts

/-- All words, in their order. -/
def words (parts : SentenceParts) : List String :=
  parts.left ++ (parts.fillers ++ (parts.ranks ++ parts.noun :: (parts.right ++ parts.rest)))

/-- The parts are those of a sentence: two relatives with a connector between them, and whatever can follow
the second relative. -/
structure Tell (parts : SentenceParts) (sentence : Sentence) : Prop where
  left : RelativeWords parts.left sentence.left
  connector : ConnectorWords parts.fillers parts.ranks parts.noun sentence.connector
  right : RelativeWords parts.right sentence.right
  ends : sentence.right.EndsBefore parts.rest.head?

end SentenceParts

/-- The words of a sentence break off, in front of the next word and with an error at its place. -/
inductive SentenceStops (next : Option String) : List String → (Nat → ParseError) → Prop
  | left {words : List String} {error : Nat → ParseError} (stops : RelativeStops next words error) :
    SentenceStops next words error
  | connector {left words : List String} {spec : RelativeSpec} {error : Nat → ParseError}
    (before : RelativeWords left spec) (ends : spec.EndsBefore (words ++ next.toList).head?)
    (stops : ConnectorStops next words error) : SentenceStops next (left ++ words) error
  | right {left fillers ranks words : List String} {noun : String} {spec : RelativeSpec}
    {connector : Connector} {error : Nat → ParseError} (before : RelativeWords left spec)
    (between : ConnectorWords fillers ranks noun connector) (stops : RelativeStops next words error) :
    SentenceStops next (left ++ (fillers ++ (ranks ++ noun :: words))) error

/-- The first of some words is the first word of the tokens. -/
theorem wordOf?_eq_head? (tokens : List Token) : wordOf? tokens = (tokens.map Token.text).head? := by
  cases tokens <;> rfl

/-- The connector does not begin with the preposition of a line. -/
theorem ConnectorWords.endsBefore {fillers ranks : List String} {noun : String}
    {connector : Connector} (words : ConnectorWords fillers ranks noun connector)
    (spec : RelativeSpec) (rest : List String) : spec.EndsBefore (fillers ++ (ranks ++ noun :: rest)).head? := by
  -- Its first word is a filler, a rank or a sibling.
  intro _ begins
  have introduces : WordClass.linePreposition.Has "по" :=
    Vocabulary.isLinePreposition_iff.mp (by decide)
  obtain ⟨skipped, ranked, names, _⟩ := words
  cases fillers with
  | cons filler fillers =>
    have first : filler = "по" := Option.some.inj begins
    cases (skipped filler (by simp)).unique (first ▸ introduces)
  | nil =>
    generalize connector.rank = rank at ranked
    cases ranked with
    | absent =>
      have first : noun = "по" := Option.some.inj begins
      cases names.unique (first ▸ introduces)
    | present ranks =>
      have first : _ = "по" := Option.some.inj begins
      cases ranks.unique (first ▸ introduces)

namespace Sentence

/-- The three readers follow each other where there are any words. -/
theorem ofTokens_eq {tokens : List Token} (some : tokens ≠ []) :
    ofTokens tokens =
      (readRelative tokens.length tokens).bind fun left =>
        (readConnector tokens.length left.2).bind fun connector =>
          (readRelative tokens.length connector.2).map fun right =>
            ⟨left.1, connector.1, right.1⟩ := by
  have present : tokens.isEmpty = false := by simpa using some
  rw [ofTokens, present]
  cases first : readRelative tokens.length tokens with
  | error error => simp [first, bind, Except.bind]
  | ok left =>
    cases second : readConnector tokens.length left.2 with
    | error error => simp [first, second, bind, Except.bind]
    | ok connector =>
      cases third : readRelative tokens.length connector.2 <;>
        simp [first, second, third, bind, Except.bind, pure, Except.pure, Except.map]

/-- The words of a sentence are read. -/
theorem ofTokens_of_tell {tokens : List Token} {parts : SentenceParts} {sentence : Sentence}
    (words : parts.words = tokens.map Token.text) (tell : parts.Tell sentence) :
    ofTokens tokens = .ok sentence := by
  -- The three readers find the three parts one after the other.
  obtain ⟨left, fillers, ranks, noun, right, rest⟩ := parts
  obtain ⟨before, between, after, ends⟩ := tell
  have goesOn := between.endsBefore sentence.left (right ++ rest)
  simp only [SentenceParts.words, eq_comm (b := tokens.map Token.text), List.map_eq_append_iff,
    List.map_eq_cons_iff] at words
  obtain ⟨left, _, rfl, rfl, fillers, _, rfl, rfl, ranks, _, rfl, rfl, noun, _, rfl, rfl, right,
    rest, rfl, rfl, rfl⟩ := words
  rw [← wordOf?_eq_head?] at ends
  have first := fun size => before.read size (fillers ++ (ranks ++ noun :: (right ++ rest)))
    (by simpa [wordOf?_eq_head?] using goesOn)
  rw [ofTokens_eq (by simp), first]
  simp only [Except.bind, between.read, after.read _ _ ends, Except.map]

/-- Where the words of a sentence break off, reading fails. -/
theorem ofTokens_of_stops {used rest : List Token} {error : Nat → ParseError}
    (stops : SentenceStops (wordOf? rest) (used.map Token.text) error) (some : used ++ rest ≠ []) :
    ofTokens (used ++ rest) = .error (error (placeOf (used ++ rest).length rest)) := by
  -- The readers in front find their parts, and the next one fails.
  rw [ofTokens_eq some]
  generalize (used ++ rest).length = size
  generalize told : used.map Token.text = texts at stops
  cases stops with
  | left stops =>
    subst told
    rw [stops.read]
    rfl
  | connector before ends stops =>
    simp only [List.map_eq_append_iff] at told
    obtain ⟨left, words, rfl, rfl, rfl⟩ := told
    have first := before.read size (words ++ rest) (by simpa [wordOf?_eq_head?] using ends)
    simp only [List.append_assoc, first, Except.bind, stops.read]
  | right before between stops =>
    have goesOn := between.endsBefore
    simp only [List.map_eq_append_iff, List.map_eq_cons_iff] at told
    obtain ⟨left, _, rfl, rfl, fillers, _, rfl, rfl, ranks, _, rfl, rfl, noun, words, rfl, rfl,
      rfl⟩ := told
    have first := before.read size (fillers ++ (ranks ++ noun :: (words ++ rest)))
      (by simpa [wordOf?_eq_head?] using goesOn _ ((words ++ rest).map Token.text))
    simp only [List.append_assoc, List.cons_append, first, Except.bind, between.read, stops.read,
      Except.map]

/-- Any tokens are the words of a sentence, or these break off somewhere. -/
theorem tell_or_stops (tokens : List Token) :
    (∃ (parts : SentenceParts) (sentence : Sentence), parts.words = tokens.map Token.text ∧
      parts.Tell sentence) ∨
      ∃ used rest error, tokens = used ++ rest ∧
        SentenceStops (wordOf? rest) (used.map Token.text) error := by
  -- The three parts are looked for one after the other.
  rcases relative_words_or_stops tokens with ⟨left, behind, spec, rfl, before, open_⟩ |
    ⟨used, rest, error, rfl, stops⟩
  case inr => exact Or.inr ⟨used, rest, error, rfl, .left stops⟩
  rcases connector_words_or_stops behind with
    ⟨fillers, ranks, noun, behind, connector, rfl, between⟩ | ⟨words, rest, error, rfl, stops⟩
  case inr =>
    refine Or.inr ⟨left ++ words, rest, error, by simp, ?_⟩
    rw [List.map_append]
    refine .connector before ?_ stops
    simpa [wordOf?_eq_head?] using open_
  rcases relative_words_or_stops behind with ⟨right, rest, other, rfl, after, ends⟩ |
    ⟨words, rest, error, rfl, stops⟩
  case inr =>
    refine Or.inr ⟨left ++ (fillers ++ (ranks ++ noun :: words)), rest, error, by simp, ?_⟩
    simp only [List.map_append, List.map_cons]
    exact .right before between stops
  refine Or.inl ⟨⟨_, _, _, _, _, rest.map Token.text⟩, ⟨spec, connector, other⟩, ?_, before, between, after, ?_⟩
  · simp [SentenceParts.words]
  · rwa [← wordOf?_eq_head?]

/-- A phrase is read as a sentence exactly when its words are those of the sentence. -/
theorem ofTokens_eq_ok_iff (tokens : List Token) (sentence : Sentence) :
    ofTokens tokens = .ok sentence ↔
      ∃ parts : SentenceParts, parts.words = tokens.map Token.text ∧ parts.Tell sentence := by
  constructor
  · intro read
    -- Words that break off are not read, and others are read as the sentence that they tell.
    rcases tell_or_stops tokens with ⟨parts, other, words, tell⟩ | ⟨used, rest, error, rfl, stops⟩
    · cases (ofTokens_of_tell words tell).symm.trans read
      exact ⟨parts, words, tell⟩
    · by_cases some : used ++ rest = []
      · rw [some] at read
        cases read
      · cases (ofTokens_of_stops stops some).symm.trans read
  · rintro ⟨parts, words, tell⟩
    exact ofTokens_of_tell words tell

/-- A phrase is not read exactly when it has no words, or these break off at the place of the error. -/
theorem ofTokens_eq_error_iff (tokens : List Token) (error : ParseError) :
    ofTokens tokens = .error error ↔
      (tokens = [] ∧ error = .emptyInput) ∨
        (tokens ≠ [] ∧ ∃ used rest made, tokens = used ++ rest ∧
          SentenceStops (wordOf? rest) (used.map Token.text) made ∧
          error = made (placeOf tokens.length rest)) := by
  constructor
  · intro failed
    by_cases some : tokens = []
    · subst some
      cases failed
      exact Or.inl ⟨rfl, rfl⟩
    · rcases tell_or_stops tokens with ⟨parts, other, words, tell⟩ | ⟨used, rest, made, rfl, stops⟩
      · cases (ofTokens_of_tell words tell).symm.trans failed
      · cases (ofTokens_of_stops stops some).symm.trans failed
        exact Or.inr ⟨some, used, rest, made, rfl, stops, rfl⟩
  · rintro (⟨rfl, rfl⟩ | ⟨some, used, rest, made, rfl, stops, rfl⟩)
    · rfl
    · exact ofTokens_of_stops stops some

end Sentence

/-- Behind the words for a parent the preposition may not come. -/
theorem RelativeWords.exists_stops {words : List String} {spec : RelativeSpec} {next : Option String}
    (relative : RelativeWords words spec) (isParent : spec.term.isGrandparent = false)
    (begins : next = some "по") : ∃ error, RelativeStops next words error := by
  cases relative with
  | parent owns names _ => exact ⟨_, .surplus owns names isParent begins⟩
  | grandparent _ _ isGrandparent _ => simp [isGrandparent] at isParent

/-- The words of a line in front of other words are found in one way. -/
theorem LineWords.unique {first second rest other : List String} {line line' : Line}
    (one : LineWords first line) (two : LineWords second line')
    (same : first ++ rest = second ++ other) : first = second ∧ line = line' := by
  obtain ⟨sides, _⟩ := one
  obtain ⟨sides', _⟩ := two
  simp only [List.cons_append, List.nil_append, List.cons.injEq, true_and] at same
  obtain ⟨rfl, rfl, _⟩ := same
  cases sides.unique sides'
  exact ⟨rfl, rfl⟩

/-- The words for a relative in front of other words are found in one way. -/
theorem RelativeWords.unique {first second rest other : List String} {spec spec' : RelativeSpec}
    (one : RelativeWords first spec) (two : RelativeWords second spec')
    (same : first ++ rest = second ++ other) : first = second ∧ spec = spec' := by
  -- The second word tells whether a line follows, since no word names both a parent and a grandparent.
  cases one with
  | parent owns names isParent =>
    cases two with
    | parent owns' names' _ =>
      simp only [List.cons_append, List.nil_append, List.cons.injEq] at same
      obtain ⟨rfl, rfl, _⟩ := same
      cases owns.unique owns'
      cases names.unique names'
      exact ⟨rfl, rfl⟩
    | grandparent _ names' isGrandparent _ =>
      simp only [List.cons_append, List.nil_append, List.cons.injEq] at same
      obtain ⟨rfl, rfl, _⟩ := same
      cases names.unique names'
      simp [isParent] at isGrandparent
  | grandparent owns names isGrandparent descends =>
    cases two with
    | parent _ names' isParent =>
      simp only [List.cons_append, List.nil_append, List.cons.injEq] at same
      obtain ⟨rfl, rfl, _⟩ := same
      cases names.unique names'
      simp [isGrandparent] at isParent
    | grandparent owns' names' _ descends' =>
      simp only [List.cons_append, List.cons.injEq] at same
      obtain ⟨rfl, rfl, same⟩ := same
      obtain ⟨rfl, rfl⟩ := descends.unique descends' same
      cases owns.unique owns'
      cases names.unique names'
      exact ⟨rfl, rfl⟩

/-- A list is divided in one way into members with a property and a rest that does not begin with one. -/
theorem division_unique {α : Type} {has : α → Prop} {first second rest other : List α}
    (all : ∀ member ∈ first, has member) (ended : ∀ member, rest.head? = some member → ¬has member)
    (all' : ∀ member ∈ second, has member)
    (ended' : ∀ member, other.head? = some member → ¬has member)
    (same : first ++ rest = second ++ other) : first = second ∧ rest = other := by
  induction first generalizing second with
  | nil =>
    cases second with
    | nil => exact ⟨rfl, same⟩
    | cons head second =>
      -- The rest would begin with a member that has the property.
      exact absurd (all' head (by simp)) (ended head (by simp [show rest = _ from same]))
  | cons head first ih =>
    cases second with
    | nil =>
      exact absurd (all head (by simp)) (ended' head (by simp [show other = _ from same.symm]))
    | cons head' second =>
      simp only [List.cons_append, List.cons.injEq] at same
      obtain ⟨rfl, same⟩ := same
      obtain ⟨rfl, rest⟩ := ih (fun member inside => all member (by simp [inside]))
        (fun member inside => all' member (by simp [inside])) same
      exact ⟨rfl, rest⟩

/-- The first word behind the fillers is none. -/
theorem ConnectorWords.ended {fillers ranks rest : List String} {noun : String}
    {connector : Connector} (words : ConnectorWords fillers ranks noun connector) :
    ∀ word, (ranks ++ noun :: rest).head? = some word → ¬WordClass.filler.Has word := by
  -- It is a rank or a sibling.
  intro word there
  have ranked := words.rank
  generalize connector.rank = rank at ranked
  cases ranked with
  | absent => exact Option.some.inj there ▸ (connector_classes.2 ⟨_, words.sibling⟩).1
  | present ranks => exact Option.some.inj there ▸ connector_classes.1 ⟨_, ranks⟩

/-- The words between two relatives are found in one way. -/
theorem ConnectorWords.unique {fillers fillers' ranks ranks' rest rest' : List String}
    {noun noun' : String} {connector connector' : Connector}
    (one : ConnectorWords fillers ranks noun connector)
    (two : ConnectorWords fillers' ranks' noun' connector')
    (same : fillers ++ (ranks ++ noun :: rest) = fillers' ++ (ranks' ++ noun' :: rest')) :
    fillers = fillers' ∧ ranks = ranks' ∧ noun = noun' ∧ rest = rest' ∧ connector = connector' := by
  obtain ⟨rfl, behind⟩ := division_unique one.skipped one.ended two.skipped two.ended same
  -- No rank is a sibling, so both have a rank or neither has one.
  obtain ⟨rank, wording, sibling⟩ := connector
  obtain ⟨rank', wording', sibling'⟩ := connector'
  obtain ⟨_, ranked, names, rfl⟩ := one
  obtain ⟨_, ranked', names', rfl⟩ := two
  dsimp only at ranked ranked' names names'
  cases ranked with
  | absent =>
    cases ranked' with
    | absent =>
      obtain ⟨rfl, rfl⟩ := List.cons.inj behind
      cases names.unique names'
      exact ⟨rfl, rfl, rfl, rfl, rfl⟩
    | present ranks => cases names.unique ((List.cons.inj behind).1 ▸ ranks)
  | present ranks =>
    cases ranked' with
    | absent => cases names'.unique ((List.cons.inj behind).1 ▸ ranks)
    | present ranks' =>
      obtain ⟨rfl, following⟩ := List.cons.inj behind
      obtain ⟨rfl, rfl⟩ := List.cons.inj following
      cases ranks.unique ranks'
      cases names.unique names'
      exact ⟨rfl, rfl, rfl, rfl, rfl⟩

/-- The words of a phrase are those of a sentence in one way. -/
theorem SentenceParts.Tell.unique {parts parts' : SentenceParts} {sentence sentence' : Sentence}
    (one : parts.Tell sentence) (two : parts'.Tell sentence') (same : parts.words = parts'.words) :
    parts = parts' ∧ sentence = sentence' := by
  -- The parts are compared from the left to the right.
  obtain ⟨left, fillers, ranks, noun, right, rest⟩ := parts
  obtain ⟨left', fillers', ranks', noun', right', rest'⟩ := parts'
  obtain ⟨spec, connector, other⟩ := sentence
  obtain ⟨spec', connector', other'⟩ := sentence'
  simp only [SentenceParts.words] at same
  obtain ⟨rfl, rfl⟩ := one.left.unique two.left same
  obtain ⟨rfl, rfl, rfl, same, rfl⟩ := one.connector.unique two.connector (List.append_cancel_left same)
  obtain ⟨rfl, rfl⟩ := one.right.unique two.right same
  cases List.append_cancel_left same
  exact ⟨rfl, rfl⟩

/-- How some tokens are read: exactly as the grammar says, in one way, by their words alone, and without a
look at what follows the sentence, except for a line that would begin behind a parent. -/
structure ReadsByGrammar (tokens : List Token) : Prop where
  accepts : ∀ sentence, Sentence.ofTokens tokens = .ok sentence ↔
    ∃ parts : SentenceParts, parts.words = tokens.map Token.text ∧ parts.Tell sentence
  unique : ∀ (parts parts' : SentenceParts) (sentence sentence' : Sentence),
    parts.words = tokens.map Token.text → parts.Tell sentence →
    parts'.words = tokens.map Token.text → parts'.Tell sentence' →
    parts = parts' ∧ sentence = sentence'
  places : ∀ others sentence, others.map Token.text = tokens.map Token.text →
    (Sentence.ofTokens others = .ok sentence ↔ Sentence.ofTokens tokens = .ok sentence)
  rests : ∀ (parts : SentenceParts) (sentence : Sentence) (rest : List String) (others : List Token),
    parts.words = tokens.map Token.text → parts.Tell sentence →
    { parts with rest := rest }.words = others.map Token.text →
    sentence.right.EndsBefore rest.head? → Sentence.ofTokens others = .ok sentence
  extends_iff : ∀ (parts : SentenceParts) (sentence : Sentence) (more : List Token),
    parts.words = tokens.map Token.text → parts.Tell sentence →
    (Sentence.ofTokens (tokens ++ more) = .ok sentence ↔
      ¬(parts.rest = [] ∧ sentence.right.term.isGrandparent = false ∧ wordOf? more = some "по"))

/-- All tokens are read by the grammar. -/
theorem Sentence.readsByGrammar (tokens : List Token) : ReadsByGrammar tokens where
  accepts := ofTokens_eq_ok_iff tokens
  unique parts parts' sentence sentence' words tell words' tell' :=
    tell.unique tell' (words.trans words'.symm)
  places others sentence same := by rw [ofTokens_eq_ok_iff, ofTokens_eq_ok_iff, same]
  rests parts sentence rest others words tell changed ends :=
    ofTokens_of_tell changed ⟨tell.left, tell.connector, tell.right, ends⟩
  extends_iff parts sentence more words tell := by
    -- The tokens that are added stand behind the rest, and the parts of the sentence stay.
    have longer : { parts with rest := parts.rest ++ more.map Token.text }.words =
        (tokens ++ more).map Token.text := by
      rw [List.map_append, ← words]
      simp [SentenceParts.words]
    constructor
    · rintro read ⟨nothing, isParent, begins⟩
      -- The preposition would begin a line behind the parent that the tokens end with.
      have whole : tokens.map Token.text =
          parts.left ++ (parts.fillers ++ (parts.ranks ++ parts.noun :: parts.right)) := by
        simp [← words, SentenceParts.words, nothing]
      obtain ⟨error, stops⟩ := tell.right.exists_stops isParent begins
      have breaks : SentenceStops (wordOf? more) (tokens.map Token.text) error := by
        rw [whole]
        exact .right tell.left tell.connector stops
      have some : tokens ++ more ≠ [] := by
        rintro none
        simp [(List.append_eq_nil_iff.mp none).2, wordOf?] at begins
      cases (ofTokens_of_stops breaks some).symm.trans read
    · intro allowed
      refine ofTokens_of_tell longer ⟨tell.left, tell.connector, tell.right, fun isParent begins => ?_⟩
      cases rest : parts.rest with
      | nil => exact allowed ⟨rest, isParent, by simpa [rest, wordOf?_eq_head?] using begins⟩
      | cons word rest' => exact tell.ends isParent (by simpa [rest] using begins)

end Kindred
