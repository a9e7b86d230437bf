import Kindred.Number.Binary
import Kindred.Pedigree.Graph

/-! The numbers of a graph. -/

namespace Kindred

/-- How many people a graph has, how many links join them, and at how many of them chains begin and end. -/
structure Statistics where
  persons : Nat
  links : Nat
  founders : Nat
  childless : Nat
deriving DecidableEq, Repr

/-- The numbers of a graph. -/
def Pedigree.statistics (graph : Pedigree) : Statistics :=
  ⟨graph.people.length, graph.links.length, graph.founders.length, graph.childless.length⟩

/-- The number of links that a person has on average. Each link counts at both of its ends. -/
def Statistics.averageDegree (numbers : Statistics) : Binary :=
  if numbers.persons = 0 then .zero
  else (Binary.ofQuotient? (2 * numbers.links) numbers.persons).getD .zero

end Kindred
