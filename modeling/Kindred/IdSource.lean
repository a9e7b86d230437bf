import Kindred.Number.Digits
import Kindred.Person
import Kindred.Text.Parts

/-! A source of identifiers: a label followed by a counter. -/

namespace Kindred

/-- Identifiers are the label followed by the counter in decimal. The counter stops at its largest value. -/
structure IdSource where
  label : String := "p"
  start : UInt64 := 1
  next : UInt64 := start
deriving DecidableEq, Repr, Inhabited

namespace IdSource

/-- The counter after one more draw. -/
def successor (count : UInt64) : UInt64 :=
  if count.toNat < maxCount then count + 1 else count

/-- The identifier that the next draw makes. -/
def peek (source : IdSource) : PersonId :=
  ⟨source.label ++ toString source.next.toNat⟩

/-- Draws an identifier. -/
def draw (source : IdSource) : PersonId × IdSource :=
  (source.peek, { source with next := successor source.next })

/-- Goes back to the first counter. -/
def reset (source : IdSource) : IdSource :=
  { source with next := source.start }

/-- The counter in an identifier of this label. -/
def countIn? (source : IdSource) (id : PersonId) : Option UInt64 :=
  (Text.afterPart? source.label.toList id.text.toList).bind readCount?

/-- Moves the counter past an identifier of this label, unless that one has the largest counter. -/
def observe (source : IdSource) (id : PersonId) : IdSource :=
  match source.countIn? id with
  | some count =>
    if count.toNat < maxCount then { source with next := max source.next (count + 1) } else source
  | none => source

end IdSource

end Kindred
