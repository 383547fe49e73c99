/-!
# Enumerations

An enumeration lists members whose values are numbers where they are known without a preprocessor,
and expressions otherwise. `byValue` is the view by number: ascending, with the first declared name
of each number.
-/

namespace ApiTrace

/-- The value of an enumeration member. -/
inductive EnumValue where
  /-- A known number. -/
  | resolved (number : Int)
  /-- An expression that only a preprocessor can evaluate. -/
  | unresolved (expression : String)
  deriving DecidableEq, Repr

/-- The number of a value, where it is known. -/
def EnumValue.number? : EnumValue → Option Int
  | .resolved number => some number
  | .unresolved _ => none

/-- A named member. -/
structure EnumMember where
  name : String
  value : EnumValue
  deriving DecidableEq, Repr

/-- An enumeration with its members in declaration order. -/
structure Enumeration where
  name : String
  members : List EnumMember
  deriving DecidableEq, Repr

namespace Enumeration

/-- The number of the first member of a name, if it is known. -/
def valueOf? (enumeration : Enumeration) (member : String) : Option Int :=
  (enumeration.members.find? fun candidate => candidate.name = member).bind fun candidate =>
    candidate.value.number?

/-- The members with known numbers, in declaration order. -/
def resolved (enumeration : Enumeration) : List (String × Int) :=
  enumeration.members.filterMap fun member =>
    member.value.number?.map fun number => (member.name, number)

/-- Put a pair at its place by number, unless its number is taken. -/
def placeByValue (pair : String × Int) : List (String × Int) → List (String × Int)
  | [] => [pair]
  | other :: pairs =>
    if pair.2 < other.2 then pair :: other :: pairs
    else if pair.2 = other.2 then other :: pairs
    else other :: placeByValue pair pairs

/-- The members with known numbers, ascending, with the first declared name of each number. -/
def byValue (enumeration : Enumeration) : List (String × Int) :=
  enumeration.resolved.foldl (fun pairs pair => placeByValue pair pairs) []

end Enumeration

end ApiTrace
