/-! Cutting a text at its parts. -/

namespace Kindred.Text

/-- What stands after a leading part of a list, when the list begins with that part. -/
def afterPart? {α : Type} [DecidableEq α] : List α → List α → Option (List α)
  | [], rest => some rest
  | _ :: _, [] => none
  | x :: part, y :: rest => if x = y then afterPart? part rest else none

/-- The parts of a text between the places of a mark. There is one part more than there are marks. -/
def partsAt (mark : Char) : List Char → List (List Char)
  | [] => [[]]
  | c :: rest =>
    if c = mark then
      [] :: partsAt mark rest
    else
      match partsAt mark rest with
      | part :: parts => (c :: part) :: parts
      | [] => [[c]]

end Kindred.Text
