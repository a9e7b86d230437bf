import Kindred.Yaml.Node

/-! The tokens of a YAML text, and why a text is no YAML. -/

namespace Kindred.Yaml

/-- A token. The block marks are not written: they follow from the columns. -/
inductive Token where
  | scalar (style : Style) (text : String)
  | anchor (name : String)
  | alias (name : String)
  | tag (tag : Tag)
  | blockSequenceStart
  | blockMappingStart
  | blockEnd
  | flowSequenceStart
  | flowSequenceEnd
  | flowMappingStart
  | flowMappingEnd
  /-- The dash of an item. -/
  | blockEntry
  /-- The comma between two parts in brackets. -/
  | flowEntry
  /-- The beginning of a key. -/
  | key
  /-- The colon in front of a value. -/
  | value
  | documentStart
  | documentEnd
  | version
  /-- A handle that tags may begin with. -/
  | handle (name : String)
deriving DecidableEq, Repr

/-- Why a text is no YAML. -/
inductive SyntaxError where
  | controlCharacter
  | badStart (c : Char)
  | tabInIndentation
  | badEscape
  | badName
  | badTag
  | badDirective
  | badBlockHeader
  | unfinished
  | missingColon
  | documentMarkInside
  | tooDeep
  | misplaced
  | unknownAnchor (name : String)
  | unknownHandle (name : String)
  | secondDocument
deriving DecidableEq, Repr

/-- The message of an error. -/
def SyntaxError.message : SyntaxError → String
  | .controlCharacter => "control characters are not allowed"
  | .badStart c => "found character that cannot start any token: " ++ c.toString
  | .tabInIndentation => "found a tab character that violates indentation"
  | .badEscape => "found unknown escape character"
  | .badName => "did not find expected alphabetic or numeric character"
  | .badTag => "did not find expected tag"
  | .badDirective => "did not find expected directive"
  | .badBlockHeader => "did not find expected comment or line break"
  | .unfinished => "found unexpected end of stream"
  | .missingColon => "could not find expected ':'"
  | .documentMarkInside => "found unexpected document indicator"
  | .tooDeep => "recursion limit exceeded"
  | .misplaced => "did not find expected node content"
  | .unknownAnchor name => "unknown anchor " ++ name
  | .unknownHandle name => "found undefined tag handle " ++ name
  | .secondDocument => "more than one document"

end Kindred.Yaml
