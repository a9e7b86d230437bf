import Kindred.Text.Words

/-! The normal form of a text by the passes that rewrite it one after another. -/

namespace Kindred.Text

/-- The signs that join words or stand between them. -/
def dashRanges : CodeRanges := [
  (0x2D, 0x2D), (0x2010, 0x2015), (0x2212, 0x2212), (0xFE58, 0xFE58), (0xFE63, 0xFE63), (0xFF0D, 0xFF0D)]

/-- The character is a dash. -/
def isDash (c : Char) : Bool :=
  dashRanges.contains c.toNat

/-- A space takes the place of every dash. -/
def clearDash (c : Char) : Char :=
  if isDash c then ' ' else c

/-- The character is neither a letter nor a number nor white space. -/
def isMark (c : Char) : Bool :=
  !isWordChar c && !isBlank c

/-- One space for each longest run of matched characters, the first of which may stand in a run that has begun. -/
def squeezeAfter (matched : Char → Bool) (inRun : Bool) : List Char → List Char
  | [] => []
  | c :: rest =>
    if matched c then
      if inRun then squeezeAfter matched true rest else ' ' :: squeezeAfter matched true rest
    else c :: squeezeAfter matched false rest

/-- One space takes the place of each longest run of matched characters. -/
def squeeze (matched : Char → Bool) (text : List Char) : List Char :=
  squeezeAfter matched false text

/-- The text folded, its dashes and then its marks turned into spaces, trimmed, each run of white space made one. -/
def normalizeInPasses (text : List Char) : List Char :=
  squeeze isBlank (trim (squeeze isMark ((fold text).map clearDash)))

end Kindred.Text
