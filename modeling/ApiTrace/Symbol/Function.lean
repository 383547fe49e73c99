import ApiTrace.Symbol.Guard

/-!
# Interceptable functions

A function of the traced interface with the parameters that its callbacks see, and the slot of the
dispatch table through which its callbacks are installed.
-/

namespace ApiTrace

/-- One argument of an interceptable function. -/
structure Parameter where
  name : String
  type : String
  deriving DecidableEq, Repr

/-- An entry point of the traced interface. -/
structure Function where
  name : String
  /-- The arguments, in order. -/
  parameters : List Parameter
  /-- The structure type through which callbacks receive the arguments. -/
  parameterStruct : String
  /-- The type of the result that callbacks receive. -/
  returnType : String
  deriving DecidableEq, Repr

/-- The place of a function's callback in the nested dispatch table. -/
structure Slot where
  /-- The field of the dispatch table. -/
  groupField : String
  groupGuard : Option Guard
  /-- The field of the group. -/
  leafField : String
  leafGuard : Option Guard
  deriving DecidableEq, Repr

/-- A name without `leading` in front, unless nothing would remain. -/
def shortName (leading name : String) : String :=
  match leading.toList.isPrefixOf? name.toList with
  | some (c :: rest) => String.ofList (c :: rest)
  | _ => name

namespace Function

/-- The name without the interface's leading letters, as hooks use it. -/
def shortName (function : Function) (leading : String) : String :=
  ApiTrace.shortName leading function.name

/-- The declaration as a person reads it. -/
def prototype (function : Function) : String :=
  let arguments := function.parameters.map fun parameter => parameter.type ++ " " ++ parameter.name
  function.name ++ "(" ++ String.intercalate ", " arguments ++ ")"

end Function

namespace Slot

/-- The condition under which the slot exists. -/
def guard (slot : Slot) : Option Guard :=
  Guard.compose slot.groupGuard slot.leafGuard

/-- The access path inside the dispatch table. -/
def memberPath (slot : Slot) : String :=
  slot.groupField ++ "." ++ slot.leafField

end Slot

end ApiTrace
