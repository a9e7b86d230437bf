import Kindred.Phrase.Error
import Kindred.Phrase.Token
import Kindred.Phrase.Vocabulary

/-! Reading a sentence from the words of a phrase. -/

namespace Kindred

/-- The place of the first token; the end of a phrase stands behind all its tokens. -/
def placeOf (size : Nat) : List Token → Nat
  | [] => size
  | token :: _ => token.position

/-- The word of the first token. -/
def wordOf? : List Token → Option String
  | [] => none
  | token :: _ => some token.text

/-- What the first token means in a class of words, that token's word, and the other tokens. -/
def accept? {α : Type} (meaning? : String → Option α) : List Token → Option (α × String × List Token)
  | [] => none
  | token :: rest => (meaning? token.text).map fun meaning => (meaning, token.text, rest)

/-- The same for a class that must come next. The error tells the place and the word there. -/
def expect {α : Type} (meaning? : String → Option α) (error : Nat → Option String → ParseError)
    (size : Nat) (tokens : List Token) : Except ParseError (α × String × List Token) :=
  match accept? meaning? tokens with
  | some accepted => .ok accepted
  | none => .error (error (placeOf size tokens) (wordOf? tokens))

/-- A class of words without a meaning beside its own. -/
def mark? (isMember : String → Bool) (word : String) : Option Unit :=
  if isMember word then some () else none

/-- The line that a grandparent needs: the preposition, a side and the word for a line. -/
def readLineClause (term : String) (size : Nat) (tokens : List Token) :
    Except ParseError (Line × List Token) := do
  let (_, _, tokens) ←
    expect (mark? Vocabulary.isLinePreposition) (.missingLineClause term) size tokens
  let (line, _, tokens) ←
    expect Vocabulary.lineSide? (.malformedLineClause .lineSide) size tokens
  let (_, _, tokens) ←
    expect (mark? Vocabulary.isLineWord) (.malformedLineClause .lineWord) size tokens
  return (line, tokens)

/-- A pronoun and a relative; a grandparent with a line, a parent without one. -/
def readRelative (size : Nat) (tokens : List Token) :
    Except ParseError (RelativeSpec × List Token) := do
  let (pronoun, _, tokens) ← expect Vocabulary.pronoun? .unknownPronoun size tokens
  let (term, word, tokens) ← expect Vocabulary.relationTerm? .unknownRelationTerm size tokens
  if term.isGrandparent then
    let (line, tokens) ← readLineClause word size tokens
    return (⟨pronoun, term, some line⟩, tokens)
  else if (wordOf? tokens).any Vocabulary.isLinePreposition then
    throw (.unexpectedLineClause word (placeOf size tokens))
  else
    return (⟨pronoun, term, none⟩, tokens)

/-- The tokens after the fillers at their head. -/
def skipFillers (tokens : List Token) : List Token :=
  tokens.dropWhile fun token => Vocabulary.isFiller token.text

/-- A rank, if there is one, and a sibling, after any fillers. -/
def readConnector (size : Nat) (tokens : List Token) :
    Except ParseError (Connector × List Token) := do
  let tokens := skipFillers tokens
  match accept? Vocabulary.rank? tokens with
  | some (rank, rankWord, tokens) =>
    let (sibling, word, tokens) ← expect Vocabulary.siblingWord? .missingSiblingWord size tokens
    return (⟨some rank, rankWord ++ " " ++ word, sibling⟩, tokens)
  | none =>
    let (sibling, word, tokens) ← expect Vocabulary.siblingWord? .missingSiblingWord size tokens
    return (⟨none, word, sibling⟩, tokens)

/-- The sentence at the head of a phrase. What follows it is not looked at. -/
def Sentence.ofTokens (tokens : List Token) : Except ParseError Sentence := do
  if tokens.isEmpty then
    throw .emptyInput
  let size := tokens.length
  let (left, tokens) ← readRelative size tokens
  let (connector, tokens) ← readConnector size tokens
  let (right, _) ← readRelative size tokens
  return ⟨left, connector, right⟩

end Kindred
