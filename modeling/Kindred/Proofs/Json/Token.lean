import Kindred.Json.Reader
import Kindred.Json.Writer
import Kindred.Proofs.Json.Number

/-! The tokens of a text that a value is written as are those of the value. -/

namespace Kindred.Json

mutual

/-- The tokens of a value, from the first to the last. -/
def Value.tokens : Value → List Token
  | .scalar value => [.scalar value]
  | .array [] => [.openArray, .closeArray]
  | .array (item :: rest) => .openArray :: item.tokens ++ Value.itemTokens rest ++ [.closeArray]
  | .object [] => [.openObject, .closeObject]
  | .object ((key, value) :: rest) =>
    .openObject :: .scalar (.string key) :: .colon :: value.tokens ++ Value.memberTokens rest ++
      [.closeObject]

/-- The tokens of the items after the first one. -/
def Value.itemTokens : List Value → List Token
  | [] => []
  | item :: rest => .comma :: item.tokens ++ Value.itemTokens rest

/-- The tokens of the members after the first one. -/
def Value.memberTokens : List (String × Value) → List Token
  | [] => []
  | (key, value) :: rest =>
    .comma :: .scalar (.string key) :: .colon :: value.tokens ++ Value.memberTokens rest

end

/-- A value without parts is read as it is written: all but the numbers that are not whole. -/
def Scalar.Readable : Scalar → Prop
  | .number value => value.IsWhole
  | .null | .bool _ | .string _ => True

/-- A value has readable parts, and is no deeper than a number of containers. -/
inductive Value.Fits : Nat → Value → Prop
  | scalar {room : Nat} {value : Scalar} (readable : value.Readable) : Value.Fits room (.scalar value)
  | array {room : Nat} {items : List Value} (inside : ∀ item ∈ items, Value.Fits room item) :
    Value.Fits (room + 1) (.array items)
  | object {room : Nat} {members : List (String × Value)}
    (inside : ∀ member ∈ members, Value.Fits room member.2) : Value.Fits (room + 1) (.object members)

/-- An object of texts fits wherever there is room for an object. -/
theorem Value.fits_texts (room : Nat) {members : List (String × Value)}
    (texts : ∀ member ∈ members, ∃ text, member.2 = .string text) :
    Value.Fits (room + 1) (.object members) := by
  refine .object fun member written => ?_
  obtain ⟨text, isText⟩ := texts member written
  rw [isText]
  exact .scalar trivial

/-- A list of records fits wherever there is room for a list and each of the records in it. -/
theorem Value.fits_map {α : Type} {room : Nat} {encode : α → Value}
    (each : ∀ record, Value.Fits room (encode record)) (records : List α) :
    Value.Fits (room + 1) (.array (records.map encode)) := by
  refine .array fun item inside => ?_
  obtain ⟨record, _, rfl⟩ := List.mem_map.mp inside
  exact each record

namespace Token

/-- A character that ends a word. -/
def endsWord (c : Char) : Bool :=
  isSpace c || c = '"' || (mark? c).isSome

/-- What follows cannot go on with a word. -/
def Follows (text : List Char) : Prop :=
  -- The text ends, or begins with a character that is part of no word.
  ∀ c ∈ text.head?, endsWord c

variable {found : List Token} {rest : List Char}

/-- One character is read at a time. -/
theorem ofTextFrom_cons {state after : Scan} {c : Char} {tokens : List Token}
    (scanned : scan state c = .ok (after, tokens)) :
    ofTextFrom state found (c :: rest) = ofTextFrom after (tokens.reverse ++ found) rest := by
  simp only [ofTextFrom, scanned]

/-- A mark is a token. -/
theorem ofTextFrom_mark (c : Char) (token : Token) (isMark : mark? c = some token)
    (noSpace : isSpace c = false) (noQuote : c ≠ '"') :
    ofTextFrom .between found (c :: rest) = ofTextFrom .between (token :: found) rest := by
  have scanned : scan .between c = .ok (.between, [token]) := by
    simp [scan, scanBetween, isMark, noSpace, noQuote]
  exact ofTextFrom_cons scanned

/-- White space between tokens is passed over. -/
theorem ofTextFrom_space {c : Char} (space : isSpace c = true) :
    ofTextFrom .between found (c :: rest) = ofTextFrom .between found rest := by
  have scanned : scan .between c = .ok (.between, []) := by
    simp [scan, scanBetween, space]
  exact ofTextFrom_cons scanned

/-- A new line is passed over, with the space in front of what follows. -/
theorem ofTextFrom_newLine (depth : Nat) :
    ofTextFrom .between found (newLine depth ++ rest) = ofTextFrom .between found rest := by
  have spaces : ∀ count, ofTextFrom .between found (List.replicate count ' ' ++ rest) =
      ofTextFrom .between found rest := by
    intro count
    induction count with
    | zero => rfl
    | succ count ih => rw [List.replicate_succ, List.cons_append, ofTextFrom_space rfl, ih]
  rw [newLine, List.cons_append, ofTextFrom_space rfl, spaces]

/-- The digits in base sixteen have their values. -/
theorem digitValue?_hexDigit : ∀ n < 16, digitValue? 16 (hexDigit n) = some n := by
  decide

/-- A control character in an escape of four digits stands for itself. -/
theorem ofTextFrom_hex (read : List Char) {c : Char} (control : c.toNat < 0x20) :
    ofTextFrom (.inString read) found
        ('\\' :: 'u' :: '0' :: '0' :: hexDigit (c.toNat / 16) :: hexDigit (c.toNat % 16) :: rest) =
      ofTextFrom (.inString (c :: read)) found rest := by
  have high := digitValue?_hexDigit (c.toNat / 16) (by omega)
  have low := digitValue?_hexDigit (c.toNat % 16) (by omega)
  -- The first two digits are zeros, so the number is that of the two others.
  have number : 16 * (16 * 0 + c.toNat / 16) + c.toNat % 16 = c.toNat := by omega
  have third : scan (.hex read none 2 0) (hexDigit (c.toNat / 16)) =
      .ok (.hex read none 3 (16 * 0 + c.toNat / 16), []) := by
    simp [scan, high]
  have fourth : scan (.hex read none 3 (16 * 0 + c.toNat / 16)) (hexDigit (c.toNat % 16)) =
      .ok (.inString (c :: read), []) := by
    have noHigh : isHighHalf c.toNat = false := by
      simp only [isHighHalf, Bool.and_eq_false_iff, decide_eq_false_iff_not]
      omega
    have noLow : isLowHalf c.toNat = false := by
      simp only [isLowHalf, Bool.and_eq_false_iff, decide_eq_false_iff_not]
      omega
    simp only [scan, low, number, endHex, noHigh, noLow, Char.ofNat_toNat]
    rfl
  calc ofTextFrom (.inString read) found _
      = ofTextFrom (.hex read none 2 0) found _ := rfl
    _ = ofTextFrom (.hex read none 3 (16 * 0 + c.toNat / 16)) found _ := ofTextFrom_cons third
    _ = ofTextFrom (.inString (c :: read)) found rest := ofTextFrom_cons fourth

/-- A character of a string is read from the way it stands there. -/
theorem ofTextFrom_escapeChar (read : List Char) (c : Char) :
    ofTextFrom (.inString read) found (escapeChar c ++ rest) =
      ofTextFrom (.inString (c :: read)) found rest := by
  unfold escapeChar
  split
  any_goals rfl
  -- Any other character is a control character or stands for itself.
  rename_i noQuote noSlash _ _ _ _ _
  split
  · exact ofTextFrom_hex read ‹_›
  · rename_i noControl
    have scanned : scan (.inString read) c = .ok (.inString (c :: read), []) := by
      simp only [scan, if_neg noQuote, if_neg noSlash, if_neg noControl]
    exact ofTextFrom_cons scanned

/-- The characters of a string are read one after the other. -/
theorem ofTextFrom_escaped (read : List Char) (text : List Char) :
    ofTextFrom (.inString read) found (text.flatMap escapeChar ++ rest) =
      ofTextFrom (.inString (text.reverse ++ read)) found rest := by
  induction text generalizing read with
  | nil => rfl
  | cons c text ih =>
    rw [List.flatMap_cons, List.append_assoc, ofTextFrom_escapeChar, ih, List.reverse_cons,
      List.append_assoc, List.singleton_append]

/-- A string between quotes is one token. -/
theorem ofTextFrom_quote (text : String) :
    ofTextFrom .between found (quote text ++ rest) =
      ofTextFrom .between (.scalar (.string text) :: found) rest := by
  have closed : scan (.inString text.toList.reverse) '"' =
      .ok (.between, [.scalar (.string text)]) := by
    simp [scan]
  calc ofTextFrom .between found (quote text ++ rest)
      = ofTextFrom (.inString []) found (text.toList.flatMap escapeChar ++ '"' :: rest) := by
        simp only [quote, List.cons_append, List.append_assoc, List.nil_append]
        rfl
    _ = ofTextFrom (.inString text.toList.reverse) found ('"' :: rest) := by
        rw [ofTextFrom_escaped, List.append_nil]
    _ = ofTextFrom .between (.scalar (.string text) :: found) rest := ofTextFrom_cons closed

/-- Inside a word the characters are gathered until one that ends it. -/
theorem ofTextFrom_gather {word : List Char} (unbroken : word.any endsWord = false)
    (read : List Char) :
    ofTextFrom (.word read) found (word ++ rest) = ofTextFrom (.word (word.reverse ++ read)) found rest := by
  induction word generalizing read with
  | nil => rfl
  | cons c word ih =>
    rw [List.any_cons, Bool.or_eq_false_iff] at unbroken
    obtain ⟨goesOn, unbroken⟩ := unbroken
    have scanned : scan (.word read) c = .ok (.word (c :: read), []) := by
      rw [endsWord] at goesOn
      simp only [scan, goesOn]
      rfl
    rw [List.cons_append, ofTextFrom_cons scanned, List.reverse_nil, List.nil_append, ih unbroken,
      List.reverse_cons, List.append_assoc, List.singleton_append]

/-- Where a word has ended its token is found, and what follows is read as between tokens. -/
theorem ofTextFrom_wordEnd {read : List Char} {token : Token} (known : ofWord read.reverse = .ok token)
    (follows : Follows rest) :
    ofTextFrom (.word read) found rest = ofTextFrom .between (token :: found) rest := by
  cases rest with
  | nil => simp [ofTextFrom, scanEnd, known, bind, Except.bind, pure, Except.pure]
  | cons c rest =>
    -- The character that ends the word is read as one between tokens.
    have ends : (isSpace c || c = '"' || (mark? c).isSome) = true := follows c rfl
    have scanned : scan (.word read) c = .ok ((scanBetween c).1, token :: (scanBetween c).2) := by
      simp only [scan, ends, known]
      rfl
    rw [ofTextFrom_cons scanned, List.reverse_cons, List.append_assoc, List.singleton_append]
    exact (ofTextFrom_cons rfl).symm

/-- A word is one token. -/
theorem ofTextFrom_word {word : List Char} {token : Token} (known : ofWord word = .ok token)
    (unbroken : word.any endsWord = false) (some : word ≠ []) (follows : Follows rest) :
    ofTextFrom .between found (word ++ rest) = ofTextFrom .between (token :: found) rest := by
  cases word with
  | nil => exact absurd rfl some
  | cons c word =>
    rw [List.any_cons, Bool.or_eq_false_iff] at unbroken
    obtain ⟨goesOn, unbroken⟩ := unbroken
    simp only [endsWord, Bool.or_eq_false_iff, decide_eq_false_iff_not, Option.isSome_eq_false_iff,
      Option.isNone_iff_eq_none] at goesOn
    obtain ⟨⟨noSpace, noQuote⟩, noMark⟩ := goesOn
    have scanned : scan .between c = .ok (.word [c], []) := by
      simp [scan, scanBetween, noSpace, noQuote, noMark]
    rw [List.cons_append, ofTextFrom_cons scanned, ofTextFrom_gather unbroken]
    exact ofTextFrom_wordEnd (by simpa using known) follows

/-- A digit is part of a word. -/
theorem endsWord_of_isDigit {c : Char} (digit : c.isDigit = true) : endsWord c = false := by
  -- Each of the characters that end a word is another one than a digit.
  have other : ∀ mark : Char, mark.isDigit = false → c ≠ mark := by
    rintro mark noDigit rfl
    exact absurd digit (by simp [noDigit])
  have noMark : mark? c = none := by
    unfold mark?
    split
    all_goals first | rfl | exact absurd digit (by simp)
  simp [endsWord, isSpace, noMark, other ' ' rfl, other '\n' rfl,
    other '\t' rfl, other '\r' rfl, other '"' rfl]

/-- No character of a whole number's text ends a word. -/
theorem any_endsWord_text {number : Number} (whole : number.IsWhole) :
    number.text.any endsWord = false := by
  have digits : ∀ n : Nat, (Nat.toDigits 10 n).any endsWord = false := fun n =>
    List.any_eq_false.mpr fun c member =>
      Bool.eq_false_iff.mp (endsWord_of_isDigit (Number.isDigit_of_mem member))
  cases number with
  | natural value => exact digits value
  | negative value =>
    have goesOn : endsWord '-' = false := rfl
    rw [Number.text, signed, if_pos rfl, List.any_cons, goesOn, digits, Bool.false_or]
  | real isNegative value => exact whole.elim

/-- The word of a whole number is that number. -/
theorem ofWord_text {number : Number} (whole : number.IsWhole) :
    ofWord number.text = .ok (.scalar (.number number)) := by
  have read := Number.ofLiteral?_text whole
  obtain ⟨literal, parsed, value⟩ := Option.bind_eq_some_iff.mp read
  -- None of the three words that are no numbers is a literal.
  have other : ∀ word, Number.literal? word = none → number.text ≠ word := by
    rintro word noLiteral rfl
    exact absurd parsed (by simp [noLiteral])
  rw [ofWord, if_neg (other _ (by decide)), if_neg (other _ (by decide)), if_neg (other _ (by decide))]
  simp [parsed, value]

/-- The text of a value without parts is one token. -/
theorem ofTextFrom_scalar {value : Scalar} (readable : value.Readable) (follows : Follows rest) :
    ofTextFrom .between found (value.text ++ rest) = ofTextFrom .between (.scalar value :: found) rest := by
  cases value with
  | null => exact ofTextFrom_word rfl rfl (List.cons_ne_nil _ _) follows
  | bool value => cases value <;> exact ofTextFrom_word rfl rfl (List.cons_ne_nil _ _) follows
  | number value =>
    -- Without a digit there would be no number to read.
    have digits : value.text ≠ [] := by
      intro empty
      have read := Number.ofLiteral?_text readable
      rw [empty] at read
      exact absurd read (by simp [Number.literal?, Number.sign, Number.wholePart?, Number.digitRun?])
    exact ofTextFrom_word (ofWord_text readable) (any_endsWord_text readable) digits follows
  | string value => exact ofTextFrom_quote value

/-- What begins with a character that ends words can follow one. -/
theorem follows_cons {c : Char} (ends : endsWord c = true) : Follows (c :: rest) := by
  rintro other ⟨⟩
  exact ends

/-- Behind an item further items can stand. -/
theorem follows_itemsAt (depth : Nat) (items : List Value) (follows : Follows rest) :
    Follows (Value.itemsAt depth items ++ rest) := by
  cases items with
  | nil => exact follows
  | cons item items => exact follows_cons rfl

/-- Behind a member further members can stand. -/
theorem follows_membersAt (depth : Nat) (members : List (String × Value)) (follows : Follows rest) :
    Follows (Value.membersAt depth members ++ rest) := by
  cases members with
  | nil => exact follows
  | cons member members => exact follows_cons rfl

/-- A text is read as a list of tokens wherever it stands before something that ends a word. -/
def Scans (text : List Char) (tokens : List Token) : Prop :=
  ∀ (found : List Token) (rest : List Char), Follows rest →
    ofTextFrom .between found (text ++ rest) = ofTextFrom .between (tokens.reverse ++ found) rest

/-- The items after the first one are read if each of them is. -/
theorem scans_itemsAt {depth : Nat} (items : List Value)
    (inside : ∀ item ∈ items, Scans (item.textAt depth) item.tokens) :
    Scans (Value.itemsAt depth items) (Value.itemTokens items) := by
  -- A comma and a new line stand in front of each.
  induction items with
  | nil => exact fun found rest follows => rfl
  | cons item items ih =>
    intro found rest follows
    have others := ih fun other member => inside other (by simp [member])
    simp only [Value.itemsAt, Value.itemTokens, List.cons_append, List.append_assoc]
    rw [ofTextFrom_mark ',' .comma rfl rfl (by decide), ofTextFrom_newLine,
      inside item (by simp) _ _ (follows_itemsAt depth items follows), others _ _ follows]
    simp

/-- The members after the first one are read if the values of all of them are. -/
theorem scans_membersAt {depth : Nat} (members : List (String × Value))
    (inside : ∀ member ∈ members, Scans (member.2.textAt depth) member.2.tokens) :
    Scans (Value.membersAt depth members) (Value.memberTokens members) := by
  -- A comma, a new line, the key and a colon stand in front of each value.
  induction members with
  | nil => exact fun found rest follows => rfl
  | cons member members ih =>
    intro found rest follows
    have others := ih fun other inRest => inside other (by simp [inRest])
    simp only [Value.membersAt, Value.memberTokens, List.cons_append, List.append_assoc]
    rw [ofTextFrom_mark ',' .comma rfl rfl (by decide), ofTextFrom_newLine, ofTextFrom_quote,
      ofTextFrom_mark ':' .colon rfl rfl (by decide), ofTextFrom_space rfl,
      inside member (by simp) _ _ (follows_membersAt depth members follows), others _ _ follows]
    simp

/-- The text of a value is read as its tokens, at any depth. -/
theorem scans_textAt {room : Nat} {value : Value} (fits : Value.Fits room value) (depth : Nat) :
    Scans (value.textAt depth) value.tokens := by
  -- Behind each part of a container comes a mark or a new line, so the parts are read on their own.
  induction fits generalizing depth with
  | scalar readable =>
    intro found rest follows
    simp only [Value.textAt, Value.tokens]
    exact ofTextFrom_scalar readable follows
  | @array room items inside ih =>
    intro found rest follows
    cases items with
    | nil => rfl
    | cons item items =>
      have others := scans_itemsAt items fun other member =>
        ih other (by simp [member]) (depth + 1)
      have behind : ∀ text, Follows (newLine depth ++ text) := fun text => follows_cons rfl
      simp only [Value.textAt, Value.tokens, List.cons_append, List.append_assoc, List.nil_append]
      rw [ofTextFrom_mark '[' .openArray rfl rfl (by decide), ofTextFrom_newLine,
        ih item (by simp) _ _ _ (follows_itemsAt _ items (behind _)), others _ _ (behind _),
        ofTextFrom_newLine, ofTextFrom_mark ']' .closeArray rfl rfl (by decide)]
      simp
  | @object room members inside ih =>
    intro found rest follows
    cases members with
    | nil => rfl
    | cons member members =>
      have others := scans_membersAt members fun other inRest =>
        ih other (by simp [inRest]) (depth + 1)
      have behind : ∀ text, Follows (newLine depth ++ text) := fun text => follows_cons rfl
      simp only [Value.textAt, Value.tokens, List.cons_append, List.append_assoc, List.nil_append]
      rw [ofTextFrom_mark '\x7b' .openObject rfl rfl (by decide), ofTextFrom_newLine,
        ofTextFrom_quote, ofTextFrom_mark ':' .colon rfl rfl (by decide), ofTextFrom_space rfl,
        ih member (by simp) _ _ _ (follows_membersAt _ members (behind _)), others _ _ (behind _),
        ofTextFrom_newLine, ofTextFrom_mark '\x7d' .closeObject rfl rfl (by decide)]
      simp

/-- The tokens of a value's text are the value's. -/
theorem ofText_pretty {room : Nat} {value : Value} (fits : Value.Fits room value) :
    ofText value.pretty.toList = .ok value.tokens := by
  have read := scans_textAt fits 0 [] [] (by simp [Follows])
  rw [List.append_nil, List.append_nil] at read
  rw [ofText, Value.pretty, String.toList_ofList, read]
  simp [ofTextFrom, scanEnd]

end Token

end Kindred.Json
