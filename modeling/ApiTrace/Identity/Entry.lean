/-!
# Functions to be numbered

What the numbering of a category knows about a function: its name and, where the vendor fixes one,
its number.
-/

namespace ApiTrace

/-- A function that needs a number. -/
structure Entry where
  name : String
  /-- The number that the vendor's header fixes. -/
  declared : Option Nat := none
  deriving DecidableEq, Repr

end ApiTrace
