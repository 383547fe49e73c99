import ApiTrace.Header.Conditional
import ApiTrace.Header.Declaration
import ApiTrace.Symbol.Function

/-!
# Parameters of a function

The parameters of a function are the fields of its parameter structure, in order; two fields of one
name are refused.
-/

namespace ApiTrace

/-- Append the parameter that a line declares. -/
def addParameter (file function : String) (parameters : List Parameter) (line : GuardedLine) :
    Except ScanError (List Parameter) :=
  let refuse (expected : Expectation) : ScanError :=
    .parameter file function line.number (String.ofList line.text) expected
  match Declaration.parameterField line.text with
  | .error expected => .error (refuse expected)
  | .ok (name, type) =>
    if parameters.any fun parameter => parameter.name = name then .error (refuse .freshParameter)
    else .ok (parameters ++ [⟨name, type⟩])

/-- The parameters of `function`, read from the body of its parameter structure. -/
def readParameters (header : Header) (function struct : String) :
    Except ScanError (List Parameter) := do
  (← header.guardedBody struct).foldlM (addParameter header.name function) []

end ApiTrace
