import Kindred.Text.Passes

/-! What the tables of characters say of one another: white space and dashes are not letters, and the lower-case form of
a character is its own lower-case form. -/

namespace Kindred.Text

/-- A code point of a set of ranges is one of a range of the set. -/
theorem exists_range {ranges : CodeRanges} {code : Nat} (inside : ranges.contains code = true) :
    ∃ range ∈ ranges, range.1 ≤ code ∧ code ≤ range.2 := by
  induction ranges with
  | nil => simp [CodeRanges.contains] at inside
  | cons range rest ih =>
    rw [CodeRanges.contains] at inside
    split at inside
    case isTrue below => simp at inside
    case isFalse notBelow =>
      rcases Bool.or_eq_true_iff.mp inside with upTo | later
      · exact ⟨range, List.mem_cons_self, Nat.le_of_not_lt notBelow, of_decide_eq_true upTo⟩
      · obtain ⟨found, listed, bounds⟩ := ih later
        exact ⟨found, List.mem_cons_of_mem _ listed, bounds⟩

/-- A property of all the code points of the ranges holds of a code point in them. -/
theorem CodeRanges.forall_contains (holds : Nat → Prop) {ranges : CodeRanges}
    (all : ∀ range ∈ ranges, ∀ offset < range.2 + 1 - range.1, holds (range.1 + offset)) {code : Nat}
    (inside : ranges.contains code = true) : holds code := by
  obtain ⟨range, listed, least, greatest⟩ := exists_range inside
  have found := all range listed (code - range.1) (by omega)
  rwa [Nat.add_sub_of_le least] at found

/-- No white space is a letter or a number. -/
theorem isWordChar_of_isBlank {c : Char} (blank : isBlank c = true) : isWordChar c = false :=
  CodeRanges.forall_contains (fun code => wordRanges.contains code = false) (by decide +kernel) blank

/-- No letter or number is white space. -/
theorem isBlank_of_isWordChar {c : Char} (isWord : isWordChar c = true) : isBlank c = false := by
  cases blank : isBlank c with
  | false => rfl
  | true => simp [isWordChar_of_isBlank blank] at isWord

/-- A space is white space. -/
theorem isBlank_space : isBlank ' ' = true := by
  decide

/-- A space is neither a letter nor a number. -/
theorem isWordChar_space : isWordChar ' ' = false :=
  isWordChar_of_isBlank isBlank_space

/-- No dash is a letter or a number. -/
theorem isWordChar_of_isDash {c : Char} (dash : isDash c = true) : isWordChar c = false :=
  CodeRanges.forall_contains (fun code => wordRanges.contains code = false) (by decide +kernel) dash

/-- The code point is one of the capitals of the run. -/
def CapitalRun.Has (run : CapitalRun) (code : Nat) : Prop :=
  run.first ≤ code ∧ code ≤ run.last ∧ (code - run.first) % run.step = 0

/-- The image of a code point is itself, unless a run has it. -/
theorem imageIn_cases (runs : List CapitalRun) (code : Nat) :
    imageIn runs code = code ∨ ∃ run ∈ runs, run.Has code ∧ imageIn runs code = run.image + (code - run.first) := by
  induction runs with
  | nil => exact .inl rfl
  | cons run rest ih =>
    rw [imageIn]
    split
    case isTrue => exact .inl rfl
    case isFalse notBelow =>
      split
      case isTrue inside =>
        exact .inr ⟨run, List.mem_cons_self, ⟨Nat.le_of_not_lt notBelow, inside⟩, rfl⟩
      case isFalse =>
        rcases ih with same | ⟨later, listed, found⟩
        · exact .inl same
        · exact .inr ⟨later, List.mem_cons_of_mem _ listed, found⟩

/-- The image of the last capital of the run. -/
def CapitalRun.lastImage (run : CapitalRun) : Nat :=
  run.image + (run.last - run.first)

/-- The images of a run are no capitals of another: they stand before it, after it, or between its capitals. -/
def CapitalRun.avoids (run other : CapitalRun) : Bool :=
  run.lastImage.blt other.first || other.last.blt run.image ||
    (run.step.beq 2 || run.first.beq run.last) && other.step.beq 2 && ((run.image + other.first) % 2).beq 1

/-- The images of a run are no capitals of a list of runs. Those past the images are not looked at. -/
def CapitalRun.avoidsAll (run : CapitalRun) : List CapitalRun → Bool
  | [] => true
  | other :: rest => run.lastImage.blt other.first || run.avoids other && run.avoidsAll rest

/-- No image of a run is a capital of a run that it avoids. -/
theorem CapitalRun.not_has_of_avoids {run other : CapitalRun} {code : Nat} (avoids : run.avoids other = true)
    (has : run.Has code) : ¬other.Has (run.image + (code - run.first)) := by
  intro ⟨fromOther, toOther, steps⟩
  obtain ⟨fromRun, toRun, inStep⟩ := has
  simp only [CapitalRun.avoids, lastImage, Bool.or_eq_true, Bool.and_eq_true, Nat.blt_eq, Nat.beq_eq] at avoids
  rcases avoids with (before | after) | ⟨⟨even, two⟩, odd⟩
  · omega
  · omega
  · -- Both runs go by twos, and their places differ by an odd number.
    have offset : (code - run.first) % 2 = 0 := by
      rcases even with two | alone
      · rwa [two] at inStep
      · have first : code = run.first := by omega
        simp [first]
    rw [two] at steps
    omega

/-- The table leaves the images of a run alone when the run avoids all of it. -/
theorem CapitalRun.imageIn_image {run : CapitalRun} {code : Nat} (has : run.Has code) {runs : List CapitalRun}
    (avoids : run.avoidsAll runs = true) :
    imageIn runs (run.image + (code - run.first)) = run.image + (code - run.first) := by
  induction runs with
  | nil => rfl
  | cons other rest ih =>
    rw [imageIn]
    split
    case isTrue => rfl
    case isFalse notBelow =>
      have upTo : code ≤ run.last := has.2.1
      simp only [avoidsAll, lastImage, Bool.or_eq_true, Bool.and_eq_true, Nat.blt_eq] at avoids
      rcases avoids with past | ⟨avoided, later⟩
      · omega
      · have outside := not_has_of_avoids avoided has
        rw [if_neg fun inside => outside ⟨Nat.le_of_not_lt notBelow, inside⟩]
        exact ih later

/-- The one capital whose lower-case form is two characters, as a run of its own. -/
def dottedRun : CapitalRun :=
  ⟨'İ'.toNat, 'İ'.toNat, 2, 'İ'.toNat⟩

/-- No run of capitals leads to a capital. -/
theorem avoidsAll_capitalRuns : ∀ run ∈ capitalRuns, run.avoidsAll capitalRuns = true := by
  decide +kernel

/-- No run of capitals leads to the capital that is not in a run. -/
theorem avoids_dottedRun : ∀ run ∈ capitalRuns, run.avoids dottedRun = true := by
  decide +kernel

/-- Runs of capitals lead to characters, which surrogates are not. -/
theorem lastImage_valid : ∀ run ∈ capitalRuns, run.lastImage < 0xD800 ∨
    0xDFFF < run.image ∧ run.lastImage < 0x110000 := by
  decide +kernel

/-- The character is its own lower-case form. -/
def IsLower (c : Char) : Prop :=
  lowerChar c = [c]

instance (c : Char) : Decidable (IsLower c) :=
  inferInstanceAs (Decidable (lowerChar c = [c]))

/-- Every character of a lower-case form is its own lower-case form. -/
theorem isLower_of_mem_lowerChar {c d : Char} (mem : d ∈ lowerChar c) : IsLower d := by
  rw [lowerChar] at mem
  split at mem
  case isTrue dotted =>
    rcases List.mem_cons.mp mem with rfl | mem
    · decide
    · rw [List.mem_singleton.mp mem]
      decide
  case isFalse plain =>
    rw [List.mem_singleton] at mem
    rcases imageIn_cases capitalRuns c.toNat with same | ⟨run, listed, has, image⟩
    · have own : d = c := by rw [mem, same, Char.ofNat_toNat]
      rw [own, IsLower, lowerChar, if_neg plain, same, Char.ofNat_toNat]
    · -- The image is a character, and no run has it.
      have valid : (run.image + (c.toNat - run.first)).isValidChar := by
        have upTo : c.toNat ≤ run.last := has.2.1
        rcases lastImage_valid run listed with low | high
        · exact .inl (by unfold CapitalRun.lastImage at low; omega)
        · exact .inr (by unfold CapitalRun.lastImage at high; omega)
      have code : d.toNat = run.image + (c.toNat - run.first) := by
        rw [mem, image, Char.ofNat, dif_pos valid]
        rfl
      have notDotted : d ≠ 'İ' := by
        intro dotted
        have outside := CapitalRun.not_has_of_avoids (avoids_dottedRun run listed) has
        rw [← code, dotted] at outside
        exact outside (by simp [CapitalRun.Has, dottedRun])
      have same : imageIn capitalRuns d.toNat = d.toNat := by
        rw [code]
        exact CapitalRun.imageIn_image has (avoidsAll_capitalRuns run listed)
      rw [IsLower, lowerChar, if_neg notDotted, same, Char.ofNat_toNat]

/-- Every character of a text in lower case is its own lower-case form. -/
theorem isLower_of_mem_lowercase {text : List Char} {d : Char} (mem : d ∈ lowercase text) : IsLower d := by
  have general : ∀ before, d ∈ lowercaseAfter before text → IsLower d := by
    clear mem
    induction text with
    | nil =>
      intro before mem
      simp [lowercaseAfter] at mem
    | cons c rest ih =>
      intro before mem
      rcases List.mem_append.mp mem with here | later
      · -- The two forms of a sigma are lower case both.
        split at here
        · split at here
          · rw [List.mem_singleton.mp here]
            decide
          · rw [List.mem_singleton.mp here]
            decide
        · exact isLower_of_mem_lowerChar here
      · exact ih (c :: before) later
  exact general [] mem

/-- A text of characters that are their own lower-case forms is in lower case. -/
theorem lowercase_eq_self {text : List Char} (lower : ∀ c ∈ text, IsLower c) : lowercase text = text := by
  have general : ∀ before, lowercaseAfter before text = text := by
    induction text with
    | nil => intro before; rfl
    | cons c rest ih =>
      intro before
      obtain ⟨first, others⟩ := List.forall_mem_cons.mp lower
      have notSigma : c ≠ 'Σ' := by
        rintro rfl
        exact absurd first (by decide)
      rw [lowercaseAfter, if_neg notSigma, first, ih others, List.singleton_append]
  exact general []

/-- A folded text stays as it is when it is folded once more. -/
theorem fold_eq_self {text : List Char} (folded : ∀ c ∈ text, IsLower c ∧ c ≠ 'ё') : fold text = text := by
  have lower : lowercase text = text := lowercase_eq_self fun c mem => (folded c mem).1
  have kept : text.map foldLetter = text.map id := List.map_congr_left fun c mem => if_neg (folded c mem).2
  rw [fold, lower, kept, List.map_id]

/-- The characters of a folded text are lower case, and no letter among them is one that is folded. -/
theorem folded_of_mem_fold {text : List Char} {d : Char} (mem : d ∈ fold text) : IsLower d ∧ d ≠ 'ё' := by
  obtain ⟨c, lowered, same⟩ := List.mem_map.mp mem
  rw [foldLetter] at same
  split at same
  case isTrue =>
    rw [← same]
    decide
  case isFalse other =>
    rw [← same]
    exact ⟨isLower_of_mem_lowercase lowered, other⟩

end Kindred.Text
