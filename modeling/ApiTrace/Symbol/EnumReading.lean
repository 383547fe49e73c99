import ApiTrace.Header.Conditional
import ApiTrace.Header.Declaration
import ApiTrace.Journal
import ApiTrace.NameMap
import ApiTrace.Symbol.Enumeration

/-!
# Enumerations of a header

A member with a literal has its number; a member without a value has the number after the member
before it, zero at the start. After a value that is no literal, and past the largest 64-bit number,
the following members keep an expression until the next literal.
-/

namespace ApiTrace

/-- The value of a member that is written without one, after the members before it. -/
def implicitValue (members : List EnumMember) : EnumValue :=
  match members.getLast? with
  | none => .resolved 0
  | some last =>
    match last.value with
    | .resolved number =>
      if number < Text.maxLong then .resolved (number + 1) else .unresolved (last.name ++ " + 1")
    | .unresolved _ => .unresolved (last.name ++ " + 1")

/-- The value of a member that is written with one. -/
def explicitValue (expression : String) : EnumValue :=
  match Declaration.literal? expression.toList with
  | some number => .resolved number
  | none => .unresolved expression

/-- Append the member that a line declares. -/
def addMember (file name : String) (members : List EnumMember) (line : GuardedLine) :
    Except ScanError (List EnumMember) :=
  match Declaration.enumMember line.text with
  | .error expected => .error (.unrecognized file line.number (String.ofList line.text) expected)
  | .ok written =>
    if members.any fun member => member.name = written.name then
      .error (.duplicateMember name written.name file line.number)
    else
      let value := match written.value with
        | some expression => explicitValue expression
        | none => implicitValue members
      .ok (members ++ [⟨written.name, value⟩])

/-- The enumeration that the line of index `line` opens. -/
def readEnumeration (header : Header) (line : Nat) (name : String) :
    Except ScanError Enumeration := do
  let span ← header.bodyFrom line name
  let kept ← header.guardedLines span
  let members ← kept.foldlM (addMember header.name name) []
  if members.isEmpty then .error (.emptyStructure header.name name) else .ok ⟨name, members⟩

/-- An enumeration with the header that defines it. -/
structure CollectedEnum where
  enumeration : Enumeration
  header : String
  deriving DecidableEq, Repr

/-- Enumerations collected from several headers. -/
abbrev EnumCollection := NameMap CollectedEnum

/-- Collect the enumeration that a line opens, if it opens one. -/
def EnumCollection.addLine (header : Header) (collection : EnumCollection) (line : NumberedLine) :
    Journalled ScanError EnumCollection := do
  let text := Text.trim line.text
  match Declaration.enumTypedef text with
  | .error expected => .fail (.unrecognized header.name line.number (String.ofList text) expected)
  | .ok none => return collection
  | .ok (some name) =>
    match collection.find? name with
    | some first => .fail (.duplicateEnum name first.header header.name)
    | none =>
      let enumeration ← readEnumeration header (line.number - 1) name
      .write .debug
        ("enum " ++ name ++ " (" ++ Text.showNat enumeration.members.length ++ " members)")
      return collection.insert name ⟨enumeration, header.name⟩

/-- Collect every enumeration of a header. -/
def EnumCollection.addHeader (collection : EnumCollection) (header : Header) :
    Journalled ScanError EnumCollection :=
  header.numbered.foldlM (addLine header) collection

/-- The enumerations of several headers; a name that is defined twice is refused. -/
def collectEnums (headers : List Header) : Journalled ScanError EnumCollection :=
  headers.foldlM EnumCollection.addHeader ∅

end ApiTrace
