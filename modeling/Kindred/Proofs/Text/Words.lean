import Kindred.Text.Passes
import Mathlib.Data.List.DropRight
import Mathlib.Data.List.TakeWhile

/-! The words of a text: its longest runs of wanted characters, which rewriting the gaps between them leaves alone. -/

namespace Kindred.Text

variable {wanted matched : Char → Bool}

/-- The words are the longest runs of wanted characters in the text, in order. -/
inductive AreRuns (wanted : Char → Bool) : List (List Char) → List Char → Prop
  | none {gap : List Char} (unwanted : ∀ c ∈ gap, wanted c = false) : AreRuns wanted [] gap
  | next {gap word rest : List Char} {words : List (List Char)} (unwanted : ∀ c ∈ gap, wanted c = false)
      (nonempty : word ≠ []) (allWanted : ∀ c ∈ word, wanted c = true)
      (ends : ∀ c ∈ rest.head?, wanted c = false) (later : AreRuns wanted words rest) :
      AreRuns wanted (word :: words) (gap ++ (word ++ rest))

/-- A word is not empty, and all its characters are wanted. -/
theorem AreRuns.isWord {words : List (List Char)} {text : List Char} (areRuns : AreRuns wanted words text) :
    ∀ word ∈ words, word ≠ [] ∧ ∀ c ∈ word, wanted c = true := by
  induction areRuns with
  | none => simp
  | next _ nonempty allWanted _ _ ih => exact List.forall_mem_cons.mpr ⟨⟨nonempty, allWanted⟩, ih⟩

/-- A word's characters are the text's. -/
theorem AreRuns.mem_text {words : List (List Char)} {text : List Char} (areRuns : AreRuns wanted words text) :
    ∀ word ∈ words, ∀ c ∈ word, c ∈ text := by
  induction areRuns with
  | none => simp
  | @next gap first rest words _ _ _ _ _ ih =>
    intro word listed c mem
    rcases List.mem_cons.mp listed with rfl | listed
    · simp [mem]
    · simp [ih word listed c mem]

/-- An unwanted character before the text belongs to no word. -/
theorem AreRuns.cons {words : List (List Char)} {text : List Char} {c : Char} (areRuns : AreRuns wanted words text)
    (unwanted : wanted c = false) : AreRuns wanted words (c :: text) := by
  cases areRuns with
  | none rest => exact .none (List.forall_mem_cons.mpr ⟨unwanted, rest⟩)
  | next rest nonempty allWanted ends later =>
    exact .next (List.forall_mem_cons.mpr ⟨unwanted, rest⟩) nonempty allWanted ends later

/-- Unwanted characters after the text belong to no word. -/
theorem AreRuns.append {words : List (List Char)} {text gap : List Char} (areRuns : AreRuns wanted words text)
    (unwanted : ∀ c ∈ gap, wanted c = false) : AreRuns wanted words (text ++ gap) := by
  induction areRuns with
  | none all => exact .none (List.forall_mem_append.mpr ⟨all, unwanted⟩)
  | @next before word rest words apart nonempty allWanted ends _ ih =>
    -- The last word ends where the added characters begin, and the others end as before.
    have stillEnds : ∀ c ∈ (rest ++ gap).head?, wanted c = false := by
      cases rest with
      | nil => exact fun c first => unwanted c (List.mem_of_mem_head? first)
      | cons d rest => exact ends
    rw [List.append_assoc, List.append_assoc]
    exact .next apart nonempty allWanted stillEnds ih

/-- A word may stand at the very beginning of the text. -/
theorem AreRuns.begin {word rest : List Char} {words : List (List Char)} (later : AreRuns wanted words rest)
    (nonempty : word ≠ []) (allWanted : ∀ c ∈ word, wanted c = true) (ends : ∀ c ∈ rest.head?, wanted c = false) :
    AreRuns wanted (word :: words) (word ++ rest) := by
  have none : ∀ c ∈ ([] : List Char), wanted c = false := by simp
  exact .next none nonempty allWanted ends later

/-- A text without characters has no words. -/
theorem AreRuns.nil : AreRuns wanted [] [] :=
  .none (by simp)

/-- What is collected from a text is its runs, the word being read standing before the text. -/
theorem areRuns_runsAfter (word text : List Char) (allWanted : ∀ c ∈ word, wanted c = true) :
    AreRuns wanted (runsAfter wanted word text) (word ++ text) := by
  -- The word grows with every wanted character, so the induction is for any word.
  induction text generalizing word with
  | nil =>
    rw [runsAfter]
    split
    case isTrue empty => simpa [List.isEmpty_iff.mp empty] using AreRuns.nil
    case isFalse nonempty => exact AreRuns.nil.begin (by simpa using nonempty) allWanted (by simp)
  | cons c rest ih =>
    rw [runsAfter]
    split
    case isTrue isWanted =>
      have more : ∀ d ∈ word ++ [c], wanted d = true := by
        intro d mem
        rcases List.mem_append.mp mem with mem | mem
        · exact allWanted d mem
        · simpa [List.mem_singleton.mp mem] using isWanted
      simpa using ih (word ++ [c]) more
    case isFalse notWanted =>
      have unwanted : wanted c = false := by simpa using notWanted
      -- The word ends here, if there is one; the rest is read from no word.
      have later : AreRuns wanted (runsAfter wanted [] rest) (c :: rest) := (ih [] (by simp)).cons unwanted
      split
      case isTrue empty => simpa [List.isEmpty_iff.mp empty] using later
      case isFalse nonempty =>
        exact later.begin (by simpa using nonempty) allWanted (by simpa using unwanted)

/-- Unwanted characters before a text are passed over. -/
theorem runsAfter_nil_append {gap : List Char} (rest : List Char) (unwanted : ∀ c ∈ gap, wanted c = false) :
    runsAfter wanted [] (gap ++ rest) = runsAfter wanted [] rest := by
  induction gap with
  | nil => rfl
  | cons c gap ih =>
    obtain ⟨first, others⟩ := List.forall_mem_cons.mp unwanted
    simp [runsAfter, first, ih others]

/-- Wanted characters before a text are added to the word being read. -/
theorem runsAfter_append (word : List Char) {more : List Char} (rest : List Char)
    (allWanted : ∀ c ∈ more, wanted c = true) :
    runsAfter wanted word (more ++ rest) = runsAfter wanted (word ++ more) rest := by
  induction more generalizing word with
  | nil => simp
  | cons c more ih =>
    obtain ⟨first, others⟩ := List.forall_mem_cons.mp allWanted
    simp [runsAfter, first, ih (word ++ [c]) others]

/-- A word ends where no wanted character follows. -/
theorem runsAfter_eq_cons {word rest : List Char} (nonempty : word ≠ []) (ends : ∀ c ∈ rest.head?, wanted c = false) :
    runsAfter wanted word rest = word :: runsAfter wanted [] rest := by
  cases rest with
  | nil => simp [runsAfter, nonempty]
  | cons c rest => simp [runsAfter, nonempty, ends c rfl]

/-- A text has one division into longest runs, the one that is collected. -/
theorem areRuns_iff {words : List (List Char)} {text : List Char} :
    AreRuns wanted words text ↔ words = runs wanted text := by
  constructor
  · intro areRuns
    induction areRuns with
    | @none gap unwanted => simpa [runs, runsAfter] using (runsAfter_nil_append [] unwanted).symm
    | @next gap word rest words unwanted nonempty allWanted ends _ ih =>
      calc word :: words
        _ = word :: runsAfter wanted [] rest := by rw [ih, runs]
        _ = runsAfter wanted word rest := (runsAfter_eq_cons nonempty ends).symm
        _ = runsAfter wanted [] (word ++ rest) := (runsAfter_append [] rest allWanted).symm
        _ = runs wanted (gap ++ (word ++ rest)) := (runsAfter_nil_append (word ++ rest) unwanted).symm
  · intro same
    simpa [same, runs] using areRuns_runsAfter [] text (by simp)

/-- The collected runs of a text are its runs. -/
theorem areRuns_runs (wanted : Char → Bool) (text : List Char) : AreRuns wanted (runs wanted text) text :=
  areRuns_iff.mpr rfl

/-- Which characters are wanted matters for those of the text alone. -/
theorem runs_congr {other : Char → Bool} {text : List Char} (agree : ∀ c ∈ text, wanted c = other c) :
    runs wanted text = runs other text := by
  -- One character is read at a time, whatever word is being read.
  have general : ∀ word, runsAfter wanted word text = runsAfter other word text := by
    induction text with
    | nil => intro word; rfl
    | cons c rest ih =>
      intro word
      obtain ⟨first, others⟩ := List.forall_mem_cons.mp agree
      simp only [runsAfter, first, ih others]
  exact general []

/-- Putting one unwanted character in another's place leaves the words alone. -/
theorem runs_map {rewrite : Char → Char} (text : List Char) (kept : ∀ c, wanted c = true → rewrite c = c)
    (unwanted : ∀ c, wanted c = false → wanted (rewrite c) = false) :
    runs wanted (text.map rewrite) = runs wanted text := by
  -- A wanted character stays, and an unwanted one still ends the word.
  have general : ∀ word, runsAfter wanted word (text.map rewrite) = runsAfter wanted word text := by
    induction text with
    | nil => intro word; rfl
    | cons c rest ih =>
      intro word
      cases isWanted : wanted c with
      | true => simp [runsAfter, kept c isWanted, isWanted, ih]
      | false => simp [runsAfter, unwanted c isWanted, isWanted, ih]
  exact general []

/-- One space in the place of a run of unwanted characters leaves the words alone. -/
theorem runs_squeeze (text : List Char) (space : wanted ' ' = false)
    (unwanted : ∀ c, matched c = true → wanted c = false) : runs wanted (squeeze matched text) = runs wanted text := by
  -- No word is being read inside a run that has begun.
  have general : ∀ word inRun, (inRun = true → word = []) →
      runsAfter wanted word (squeezeAfter matched inRun text) = runsAfter wanted word text := by
    induction text with
    | nil => intro word inRun _; rfl
    | cons c rest ih =>
      intro word inRun noWord
      cases isMatched : matched c with
      | false => simp [squeezeAfter, isMatched, runsAfter, ih]
      | true =>
        cases inRun with
        | true => simp [squeezeAfter, isMatched, runsAfter, unwanted c isMatched, noWord rfl, ih]
        | false => simp [squeezeAfter, isMatched, runsAfter, unwanted c isMatched, space, ih]
  exact general [] false (by simp)

/-- Trimming takes white space away at the ends, and nothing else. -/
theorem exists_trim (text : List Char) :
    ∃ front back, (∀ c ∈ front, isBlank c = true) ∧ (∀ c ∈ back, isBlank c = true) ∧
      text = front ++ (trim text ++ back) := by
  let rest := text.dropWhile isBlank
  let back := rest.reverse.takeWhile isBlank
  refine ⟨text.takeWhile isBlank, back.reverse, fun c mem => List.mem_takeWhile_imp mem, ?_, ?_⟩
  · intro c mem
    exact List.mem_takeWhile_imp (List.mem_reverse.mp mem)
  · have trimmed : trim text ++ back.reverse = rest := by
      rw [trim, ← List.reverse_append, List.takeWhile_append_dropWhile, List.reverse_reverse]
    rw [trimmed, List.takeWhile_append_dropWhile]

/-- The characters of a trimmed text are the text's. -/
theorem mem_of_mem_trim {text : List Char} {c : Char} (mem : c ∈ trim text) : c ∈ text := by
  obtain ⟨front, back, _, _, same⟩ := exists_trim text
  rw [same]
  simp [mem]

/-- A trimmed text does not begin with white space. -/
theorem isBlank_of_mem_head?_trim {text : List Char} {c : Char} (first : c ∈ (trim text).head?) :
    isBlank c = false := by
  have begins : trim text <+: text.dropWhile isBlank := List.rdropWhile_prefix isBlank _
  have head : (text.dropWhile isBlank).head? = some c := by
    obtain ⟨back, same⟩ := begins
    rw [← same, List.head?_append, Option.mem_def.mp first, Option.some_or]
  simpa [head] using List.head?_dropWhile_not isBlank text

/-- A trimmed text does not end with white space. -/
theorem isBlank_of_mem_getLast?_trim {text : List Char} {c : Char} (last : c ∈ (trim text).getLast?) :
    isBlank c = false := by
  have head : ((text.dropWhile isBlank).reverse.dropWhile isBlank).head? = some c := by
    rwa [trim, List.getLast?_reverse] at last
  simpa [head] using List.head?_dropWhile_not isBlank (text.dropWhile isBlank).reverse

/-- The text without the white space at its ends has the same words. -/
theorem runs_trim (text : List Char) (unwanted : ∀ c, isBlank c = true → wanted c = false) :
    runs wanted (trim text) = runs wanted text := by
  obtain ⟨front, back, blankFront, blankBack, same⟩ := exists_trim text
  have trimmed : AreRuns wanted (runs wanted (trim text)) (trim text ++ back) :=
    (areRuns_runs wanted (trim text)).append fun c mem => unwanted c (blankBack c mem)
  calc runs wanted (trim text)
    _ = runs wanted (trim text ++ back) := areRuns_iff.mp trimmed
    _ = runs wanted (front ++ (trim text ++ back)) :=
      (runsAfter_nil_append _ fun c mem => unwanted c (blankFront c mem)).symm
    _ = runs wanted text := by rw [← same]

/-- Words with one space between neighbours are the runs of what they are joined to. -/
theorem areRuns_joinWords {words : List (List Char)} (space : wanted ' ' = false)
    (areWords : ∀ word ∈ words, word ≠ [] ∧ ∀ c ∈ word, wanted c = true) : AreRuns wanted words (joinWords words) := by
  induction words with
  | nil => exact .nil
  | cons word rest ih =>
    obtain ⟨⟨nonempty, allWanted⟩, others⟩ := List.forall_mem_cons.mp areWords
    cases rest with
    | nil =>
      have alone : AreRuns wanted [word] (word ++ []) := AreRuns.nil.begin nonempty allWanted (by simp)
      simpa [joinWords] using alone
    | cons next rest =>
      -- The space before the next word belongs to no word.
      exact ((ih others).cons space).begin nonempty allWanted (by simpa using space)

/-- Joining words is putting a space between them. -/
theorem joinWords_eq_intercalate (words : List (List Char)) : joinWords words = [' '].intercalate words := by
  induction words with
  | nil => rfl
  | cons word rest ih =>
    cases rest with
    | nil => simp [joinWords]
    | cons next rest => simp [joinWords, ih]

/-- A character of joined words is one of a word or a space. -/
theorem mem_joinWords {words : List (List Char)} {c : Char} (mem : c ∈ joinWords words) :
    (∃ word ∈ words, c ∈ word) ∨ c = ' ' := by
  induction words with
  | nil => simp [joinWords] at mem
  | cons word rest ih =>
    cases rest with
    | nil => exact .inl ⟨word, List.mem_cons_self, mem⟩
    | cons next rest =>
      have parts : c ∈ word ∨ c = ' ' ∨ c ∈ joinWords (next :: rest) := by simpa [joinWords] using mem
      rcases parts with here | space | later
      · exact .inl ⟨word, List.mem_cons_self, here⟩
      · exact .inr space
      · rcases ih later with ⟨found, listed, inside⟩ | space
        · exact .inl ⟨found, List.mem_cons_of_mem _ listed, inside⟩
        · exact .inr space

/-- White space in a run that has begun is passed over. -/
theorem squeezeAfter_true_append {gap : List Char} (rest : List Char) (all : ∀ c ∈ gap, matched c = true) :
    squeezeAfter matched true (gap ++ rest) = squeezeAfter matched true rest := by
  induction gap with
  | nil => rfl
  | cons c gap ih =>
    obtain ⟨first, others⟩ := List.forall_mem_cons.mp all
    simp [squeezeAfter, first, ih others]

/-- Characters that are not matched stay, and end the run. -/
theorem squeezeAfter_append {word : List Char} (inRun : Bool) (rest : List Char) (nonempty : word ≠ [])
    (none : ∀ c ∈ word, matched c = false) :
    squeezeAfter matched inRun (word ++ rest) = word ++ squeezeAfter matched false rest := by
  induction word generalizing inRun with
  | nil => exact absurd rfl nonempty
  | cons c word ih =>
    obtain ⟨first, others⟩ := List.forall_mem_cons.mp none
    cases word with
    | nil => simp [squeezeAfter, first]
    | cons d word => simpa [squeezeAfter, first] using ih false (List.cons_ne_nil d word) others

/-- A squeezed text has characters of the text that are not matched, and spaces. -/
theorem mem_squeeze {matched : Char → Bool} {text : List Char} {c : Char} (mem : c ∈ squeeze matched text) :
    matched c = false ∨ c = ' ' := by
  have general : ∀ inRun, c ∈ squeezeAfter matched inRun text → matched c = false ∨ c = ' ' := by
    clear mem
    induction text with
    | nil =>
      intro inRun mem
      simp [squeezeAfter] at mem
    | cons d rest ih =>
      intro inRun mem
      cases isMatched : matched d with
      | true =>
        cases inRun with
        | true => exact ih true (by simpa [squeezeAfter, isMatched] using mem)
        | false =>
          have parts : c = ' ' ∨ c ∈ squeezeAfter matched true rest := by simpa [squeezeAfter, isMatched] using mem
          exact parts.elim .inr (ih true)
      | false =>
        have parts : c = d ∨ c ∈ squeezeAfter matched false rest := by simpa [squeezeAfter, isMatched] using mem
        rcases parts with rfl | later
        · exact .inl isMatched
        · exact ih false later
  exact general false mem

/-- A text of white space that does not end with white space is empty. -/
theorem eq_nil_of_isBlank {gap : List Char} (blank : ∀ c ∈ gap, isBlank c = true)
    (last : ∀ c ∈ gap.getLast?, isBlank c = false) : gap = [] := by
  cases ending : gap.getLast? with
  | none => exact List.getLast?_eq_none_iff.mp ending
  | some c => simpa [last c ending] using blank c (List.mem_of_getLast? ending)

/-- Where white space has begun before a text that does not end with any, squeezing the text joins its words. -/
theorem squeezeAfter_eq_joinWords {words : List (List Char)} {text : List Char}
    (areRuns : AreRuns (fun c => !isBlank c) words text) (last : ∀ c ∈ text.getLast?, isBlank c = false) :
    squeezeAfter isBlank true text = joinWords words := by
  induction areRuns with
  | @none gap unwanted =>
    have empty : gap = [] := eq_nil_of_isBlank (by simpa using unwanted) last
    simp [empty, squeezeAfter, joinWords]
  | @next gap word rest words unwanted nonempty allWanted ends later ih =>
    -- The gap is passed over and the word stays; white space after it is one space, and the next word follows.
    rw [squeezeAfter_true_append _ (by simpa using unwanted),
      squeezeAfter_append true rest nonempty (by simpa using allWanted)]
    cases rest with
    | nil =>
      have none : words = [] := areRuns_iff.mp later
      simp [none, squeezeAfter, joinWords]
    | cons c rest =>
      have blank : isBlank c = true := by simpa using ends c rfl
      have restLast : ∀ d ∈ (c :: rest).getLast?, isBlank d = false := by simpa using last
      have joined : squeezeAfter isBlank true rest = joinWords words := by
        simpa [squeezeAfter, blank] using ih restLast
      cases words with
      | nil =>
        -- White space alone would follow the last word.
        cases later with
        | none unwanted => exact absurd (eq_nil_of_isBlank (by simpa using unwanted) restLast) (List.cons_ne_nil c rest)
      | cons next words => simp [squeezeAfter, blank, joined, joinWords]

/-- Squeezing a text with white space at neither end joins its words. -/
theorem squeeze_eq_joinWords {text : List Char} (first : ∀ c ∈ text.head?, isBlank c = false)
    (last : ∀ c ∈ text.getLast?, isBlank c = false) : squeeze isBlank text = joinWords (blankSeparated text) := by
  have noRun : squeeze isBlank text = squeezeAfter isBlank true text := by
    cases text with
    | nil => rfl
    | cons c rest => simp [squeeze, squeezeAfter, first c rfl]
  rw [noRun]
  exact squeezeAfter_eq_joinWords (areRuns_runs _ text) last

end Kindred.Text
