import ApiTrace.Text.Blank

/-!
# Guards

A guard is the preprocessor condition under which a declaration exists, kept as the expression that
follows `#if`. `Guard.compose` joins the guards of two nested declarations.
-/

namespace ApiTrace

/-- The condition under which a declaration exists. -/
structure Guard where
  /-- An expression as it stands after `#if`. -/
  condition : String
  deriving DecidableEq, Repr

namespace Guard

/-- The guard of `#if expression`. -/
def ofExpression (expression : List Char) : Guard :=
  ⟨String.ofList (Text.trim expression)⟩

/-- The guard of `#ifdef name`. -/
def defined (name : List Char) : Guard :=
  ⟨"defined(" ++ String.ofList (Text.trim name) ++ ")"⟩

/-- The guard of `#ifndef name`. -/
def notDefined (name : List Char) : Guard :=
  ⟨"!defined(" ++ String.ofList (Text.trim name) ++ ")"⟩

/-- The guard of a declaration inside another one. -/
def compose : Option Guard → Option Guard → Option Guard
  | none, inner => inner
  | outer, none => outer
  | some outer, some inner =>
    if outer = inner then some outer
    else some ⟨"(" ++ outer.condition ++ ") && (" ++ inner.condition ++ ")"⟩

end Guard

end ApiTrace
