import ApiTrace.Header.Basic
import ApiTrace.Header.Declaration

/-!
# Callback declarations of a header

The functions whose callback types a header declares, in the order of the declarations.
-/

namespace ApiTrace.Header

/-- The functions whose callback types the lines declare. -/
def callbacksIn (dialect : Dialect) (file : String) :
    List NumberedLine → Except ScanError (List String)
  | [] => .ok []
  | line :: lines =>
    match Declaration.callback dialect line.text with
    | .error expected =>
      .error (.unrecognized file line.number (String.ofList (Text.trim line.text)) expected)
    | .ok none => callbacksIn dialect file lines
    | .ok (some function) => (callbacksIn dialect file lines).map fun functions =>
      function :: functions

/-- The functions whose callback types a header declares. -/
def callbacks (header : Header) (dialect : Dialect) : Except ScanError (List String) :=
  callbacksIn dialect header.name header.numbered

end ApiTrace.Header
