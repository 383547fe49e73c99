import ApiTrace.Header.Basic
import ApiTrace.Header.Declaration
import ApiTrace.Identity.Entry

/-!
# Vendor numbers

Some vendors publish the number of every function in an enumeration. An entry of it carries the
function's name in a comment, on its own line or on comment lines before it.
-/

namespace ApiTrace

/-- How a vendor's enumeration of function numbers is written. -/
structure NumberEnum where
  enumName : String := "ur_function_t"
  /-- What every entry line starts with. -/
  entryStart : String := "UR_FUNCTION_"
  /-- What stands before the function's name in a comment. -/
  nameMarker : String := "Enumerator for ::"
  /-- The entry that closes the list. -/
  terminator : String := "FORCE_UINT32"
  deriving DecidableEq, Repr

namespace Header

/-- Whether `c` may stand in a function's name. -/
def isNameChar (c : Char) : Bool :=
  c.isAlphanum || c == '_'

/-- The function's name after the marker. -/
def nameAfter? (marker : String) (line : List Char) : Option String := do
  let (_, rest) ← Text.splitOnce? marker.toList line
  match (Text.trim rest).takeWhile isNameChar with
  | [] => none
  | name => some (String.ofList name)

/-- The number on an entry line: the literal between the equals sign and the next comma. -/
def entryNumber? (line : List Char) : Option Nat := do
  let (_, value) ← Text.splitOnce? ['='] line
  let number ← Declaration.literal? (value.takeWhile (· != ','))
  if 0 ≤ number ∧ number ≤ (Text.maxWord : Int) then some number.toNat else none

/-- The entries on the lines of an enumeration, where `pending` is the last name that comment lines
gave since the entry before. -/
def vendorNumbersIn (spec : NumberEnum) (file : String) (pending : Option String) :
    List NumberedLine → Except ScanError (List Entry)
  | [] => .ok []
  | numbered :: lines =>
    let line := Text.trim numbered.text
    let unrecognized (expected : Expectation) : ScanError :=
      .unrecognized file numbered.number (String.ofList line) expected
    if ['\x7d'].isPrefixOf line || Text.contains spec.terminator.toList line then .ok []
    else if "///".toList.isPrefixOf line then
      vendorNumbersIn spec file ((nameAfter? spec.nameMarker line).or pending) lines
    else if spec.entryStart.toList.isPrefixOf line && line.contains '=' then
      match entryNumber? line with
      | none => .error (unrecognized .functionNumber)
      | some number =>
        match (nameAfter? spec.nameMarker line).or pending with
        | none => .error (unrecognized .functionName)
        | some name => (vendorNumbersIn spec file none lines).map fun entries =>
          ⟨name, some number⟩ :: entries
    else vendorNumbersIn spec file pending lines

/-- Whether a line opens the vendor's enumeration. -/
def opensNumberEnum (spec : NumberEnum) (line : List Char) : Bool :=
  Text.contains "typedef enum".toList line && Text.contains spec.enumName.toList line

/-- The functions of a vendor's enumeration with their numbers, in declaration order. -/
def vendorNumbers (header : Header) (spec : NumberEnum) : Except ScanError (List Entry) :=
  match header.numbered.dropWhile fun line => !opensNumberEnum spec line.text with
  | [] => .error (.structureNotFound header.name spec.enumName)
  | _ :: lines => vendorNumbersIn spec header.name none lines

end Header

end ApiTrace
