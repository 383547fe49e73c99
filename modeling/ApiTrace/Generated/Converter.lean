import ApiTrace.Symbol.Enumeration

/-!
# Converters

A converter is a generated function from the value of an enumeration to the name of its member.
-/

namespace ApiTrace

/-- The case of one member. -/
def converterCase (name : String) : String :=
  "    case " ++ name ++ ":\n      return \"" ++ name ++ "\";\n"

/-- The members that get a case, in order. -/
def converterLabels (enumeration : Enumeration) : List String :=
  enumeration.byValue.map Prod.fst

/-- The converter of an enumeration, ascending by value. -/
def renderConverter (enumeration : Enumeration) (function : String) : String :=
  "static const char* " ++ function ++ "(unsigned value) \x7b\n  switch (value) \x7b\n" ++
    String.join ((converterLabels enumeration).map converterCase) ++
    "    default:\n      break;\n  \x7d\n  return \"UNKNOWN\";\n\x7d\n\n"

end ApiTrace
