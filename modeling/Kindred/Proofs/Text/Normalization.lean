import Kindred.Proofs.Text.Tables
import Kindred.Proofs.Text.Words
import Kindred.Phrase.Token

/-! The normal form of a phrase: the runs of letters and numbers of the folded phrase, one space between neighbours. -/

namespace Kindred

namespace Text

/-- White space divides a text of letters, numbers and white space into its runs of letters and numbers. -/
theorem blankSeparated_eq_runs {text : List Char} (cleared : ∀ c ∈ text, isWordChar c = true ∨ isBlank c = true) :
    blankSeparated text = runs isWordChar text := by
  refine runs_congr fun c mem => ?_
  rcases cleared c mem with isWord | blank
  · simp [isWord, isBlank_of_isWordChar isWord]
  · simp [blank, isWordChar_of_isBlank blank]

/-- Clearing the marks leaves the runs of letters and numbers alone. -/
theorem runs_map_clearMark (text : List Char) : runs isWordChar (text.map clearMark) = runs isWordChar text := by
  refine runs_map text (fun c isWord => ?_) fun c noWord => ?_
  · simp [clearMark, isWord]
  · rw [clearMark]
    split
    case isTrue => exact noWord
    case isFalse => exact isWordChar_space

/-- Clearing the dashes leaves the runs of letters and numbers alone. -/
theorem runs_map_clearDash (text : List Char) : runs isWordChar (text.map clearDash) = runs isWordChar text := by
  refine runs_map text (fun c isWord => ?_) fun c noWord => ?_
  · cases dash : isDash c with
    | true => simp [isWordChar_of_isDash dash] at isWord
    | false => simp [clearDash, dash]
  · rw [clearDash]
    split
    case isTrue => exact isWordChar_space
    case isFalse => exact noWord

/-- The words of a normal form are the runs of letters and numbers of the folded text. -/
theorem normalize_eq (text : List Char) : normalize text = joinWords (runs isWordChar (fold text)) := by
  -- Where the marks are cleared, letters, numbers and white space are left.
  have cleared : ∀ c ∈ (fold text).map clearMark, isWordChar c = true ∨ isBlank c = true := by
    intro c mem
    obtain ⟨d, _, same⟩ := List.mem_map.mp mem
    rw [clearMark] at same
    split at same
    case isTrue kept => simpa [← same] using kept
    case isFalse => exact .inr (by rw [← same, isBlank_space])
  rw [normalize, blankSeparated_eq_runs cleared, runs_map_clearMark]

/-- Where the runs of marks are squeezed, letters, numbers and white space are left. -/
theorem cleared_of_mem_squeeze {text : List Char} {c : Char} (mem : c ∈ squeeze isMark text) :
    isWordChar c = true ∨ isBlank c = true := by
  rcases mem_squeeze mem with noMark | rfl
  · cases isWord : isWordChar c with
    | true => exact .inl rfl
    | false => exact .inr (by simpa [isMark, isWord] using noMark)
  · exact .inr isBlank_space

/-- The passes, one after another, give the normal form. -/
theorem normalizeInPasses_eq (text : List Char) : normalizeInPasses text = normalize text := by
  let undashed := (fold text).map clearDash
  let stripped := squeeze isMark undashed
  -- Each pass leaves the runs of letters and numbers alone.
  have afterMarks : runs isWordChar stripped = runs isWordChar undashed := by
    refine runs_squeeze undashed isWordChar_space fun c mark => ?_
    simp only [isMark, Bool.and_eq_true, Bool.not_eq_true'] at mark
    exact mark.1
  have afterTrim : runs isWordChar (trim stripped) = runs isWordChar stripped :=
    runs_trim stripped fun c blank => isWordChar_of_isBlank blank
  have cleared : ∀ c ∈ trim stripped, isWordChar c = true ∨ isBlank c = true := by
    intro c mem
    exact cleared_of_mem_squeeze (mem_of_mem_trim mem)
  calc normalizeInPasses text
    _ = joinWords (blankSeparated (trim stripped)) :=
      squeeze_eq_joinWords (fun _ first => isBlank_of_mem_head?_trim first)
        fun _ last => isBlank_of_mem_getLast?_trim last
    _ = joinWords (runs isWordChar (fold text)) := by
      rw [blankSeparated_eq_runs cleared, afterTrim, afterMarks, runs_map_clearDash]
    _ = normalize text := (normalize_eq text).symm

/-- White space divides a normal form into the words it is joined of. -/
theorem blankSeparated_normalize (text : List Char) :
    blankSeparated (normalize text) = runs isWordChar (fold text) := by
  have areWords : ∀ word ∈ runs isWordChar (fold text), word ≠ [] ∧ ∀ c ∈ word, (!isBlank c) = true := by
    intro word listed
    obtain ⟨nonempty, allWanted⟩ := (areRuns_runs isWordChar (fold text)).isWord word listed
    exact ⟨nonempty, fun c mem => by simp [isBlank_of_isWordChar (allWanted c mem)]⟩
  have joined : AreRuns (fun c => !isBlank c) (runs isWordChar (fold text)) (joinWords (runs isWordChar (fold text))) :=
    areRuns_joinWords (by simp [isBlank_space]) areWords
  rw [normalize_eq]
  exact (areRuns_iff.mp joined).symm

/-- A normal form is its own normal form. -/
theorem normalize_normalize (text : List Char) : normalize (normalize text) = normalize text := by
  let words := runs isWordChar (fold text)
  have areRuns : AreRuns isWordChar words (fold text) := areRuns_runs isWordChar (fold text)
  -- Folding made the characters of the words, and a space stays a space.
  have folded : fold (joinWords words) = joinWords words := by
    refine fold_eq_self fun c mem => ?_
    rcases mem_joinWords mem with ⟨word, listed, inside⟩ | rfl
    · exact folded_of_mem_fold (areRuns.mem_text word listed c inside)
    · decide
  have joined : AreRuns isWordChar words (joinWords words) :=
    areRuns_joinWords isWordChar_space areRuns.isWord
  calc normalize (normalize text)
    _ = joinWords (runs isWordChar (fold (joinWords words))) := by rw [normalize_eq, normalize_eq]
    _ = joinWords words := by rw [folded, ← areRuns_iff.mp joined]
    _ = normalize text := (normalize_eq text).symm

end Text

/-- The words of a phrase: what the phrase is read as, whatever stands between them. -/
structure ExtractsWords (phrase : String) (words : List String) : Prop where
  /-- The words are the longest runs of letters and numbers of the folded phrase, and nothing else is. -/
  areRuns : ∀ others, Text.AreRuns Text.isWordChar others (Text.fold phrase.toList) ↔ others = words.map String.toList
  joined : Token.normalForm phrase = " ".intercalate words
  inPasses : String.ofList (Text.normalizeInPasses phrase.toList) = Token.normalForm phrase
  tokens : Token.ofText (Token.normalForm phrase) = words.zipIdx.map fun (word, position) => ⟨word, position⟩
  rejoined : " ".intercalate ((Token.ofText (Token.normalForm phrase)).map Token.text) = Token.normalForm phrase
  again : Token.normalForm (Token.normalForm phrase) = Token.normalForm phrase

example : Token.normalForm "  Мать-и-мачеха —\tЕЁ «тётя»!" = "мать и мачеха ее тетя" := by
  decide +kernel

end Kindred
