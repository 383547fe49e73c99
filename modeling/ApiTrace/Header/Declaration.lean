import ApiTrace.Header.Dialect
import ApiTrace.Header.Error
import ApiTrace.Text.Numeral
import ApiTrace.Text.WordClass

/-!
# Declarations on one line

Each reader takes one line and yields what it declares, or the expectation that the line does not
meet. The caller knows the file and the line and makes an error of it.
-/

namespace ApiTrace.Declaration

/-- The longest word at the start of a text, which must not be empty, and the rest. -/
def word? (text : List Char) : Option (List Char × List Char) :=
  match text.takeWhile Text.isWordChar with
  | [] => none
  | c :: word => some (c :: word, text.dropWhile Text.isWordChar)

/-- The text after at least one blank. -/
def blanks? : List Char → Option (List Char)
  | c :: text => if Text.isBlank c then some (Text.trimStart text) else none
  | [] => none

/-- The function whose callback type a line declares; none if the line declares no callback type. -/
def callback (dialect : Dialect) (line : List Char) : Except Expectation (Option String) :=
  if Text.contains dialect.callMarker.toList line &&
      Text.contains dialect.callbackStart.toList line then
    if Text.occurrences dialect.callbackStart.toList line = 1 then
      match dialect.functionOfCallback? line with
      | some function => .ok (some function)
      | none => .error .callbackType
    else .error .singleCallback
  else .ok none

/-- A field of a dispatch structure. -/
structure StructField where
  type : String
  field : String
  deriving DecidableEq, Repr

/-- A type, blanks, a field, optional blanks and a semicolon that ends the line. -/
def structField? (line : List Char) : Option StructField := do
  let (type, rest) ← word? line
  let rest ← blanks? rest
  let (field, rest) ← word? rest
  if Text.trimStart rest = [';'] then some ⟨String.ofList type, String.ofList field⟩ else none

/-- A field of a dispatch structure. -/
def structField (line : List Char) : Except Expectation StructField :=
  match structField? line with
  | some field => .ok field
  | none => .error .structField

/-- A field `type* pName;` of a parameter structure: the name loses its leading letter, the type its
last asterisk. -/
def parameterField (line : List Char) : Except Expectation (String × String) :=
  let tokens := Text.words line
  match tokens.getLast? with
  | none => .error .typeAndName
  | some last =>
    if tokens.length < 2 then .error .typeAndName
    else
      match Text.dropEndWhile (· == ';') last with
      | 'p' :: c :: name =>
        match Text.dropEnd? ['*'] ([' '].intercalate tokens.dropLast) with
        | some type => .ok (String.ofList (c :: name), String.ofList (Text.trimEnd type))
        | none => .error .pointerType
      | _ => .error .pointerName

/-- The text after the words `typedef` and `enum`, which blanks separate from each other and from
what follows. -/
def afterTypedefEnum? (line : List Char) : Option (List Char) := do
  let rest ← "typedef".toList.isPrefixOf? line
  let rest ← blanks? rest
  let rest ← "enum".toList.isPrefixOf? rest
  blanks? rest

/-- Whether a line only announces an enumeration: two words and a semicolon that ends the line. -/
def isEnumAnnouncement (line : List Char) : Bool :=
  ((afterTypedefEnum? line).bind structField?).isSome

/-- A word without one leading underscore, unless nothing would remain. -/
def dropUnderscore : List Char → List Char
  | '_' :: c :: word => c :: word
  | word => word

/-- The name in a line that opens an enumeration, with or without its brace. -/
def openedEnum? (line : List Char) : Option String := do
  let (name, rest) ← (afterTypedefEnum? line).bind word?
  let rest := Text.trimStart rest
  let rest := ((['\x7b'].isPrefixOf? rest).map Text.trimStart).getD rest
  if rest.isEmpty then some (String.ofList (dropUnderscore name)) else none

/-- The enumeration that a line opens; none if the line opens none. -/
def enumTypedef (line : List Char) : Except Expectation (Option String) :=
  if "typedef enum".toList.isPrefixOf line then
    if isEnumAnnouncement line then .ok none
    else
      match openedEnum? line with
      | some name => .ok (some name)
      | none => .error .enumTypedef
  else .ok none

/-- A member of an enumeration as it is written. -/
structure MemberLine where
  name : String
  /-- The text after the equals sign, if there is one. -/
  value : Option String
  deriving DecidableEq, Repr

/-- The number of commas outside parentheses, from a nesting depth on. A closing parenthesis without
an opening one counts for nothing. -/
def topLevelCommas (depth : Nat) : List Char → Nat
  | [] => 0
  | '(' :: text => topLevelCommas (depth + 1) text
  | ')' :: text => topLevelCommas (depth - 1) text
  | ',' :: text => (if depth = 0 then 1 else 0) + topLevelCommas depth text
  | _ :: text => topLevelCommas depth text

/-- The member that a line of an enumeration declares. -/
def enumMember (line : List Char) : Except Expectation MemberLine :=
  if topLevelCommas 0 line > 1 then .error .singleMember
  else
    let text := Text.trim (Text.dropEndWhile (· == ',') line)
    match Text.splitOnce? ['='] text with
    | none => if Text.isIdentifier text then .ok ⟨String.ofList text, none⟩ else .error .memberName
    | some (left, right) =>
      let value := Text.trim right
      if value.isEmpty || value.contains '=' then .error .memberAssignment
      else
        let name := Text.trim left
        if Text.isIdentifier name then .ok ⟨String.ofList name, some (String.ofList value)⟩
        else .error .memberName

/-- The number of a literal: decimal digits with an optional minus sign, or hexadecimal digits with
an optional sign after `0x`. Numbers outside the signed 64-bit range are no literals. -/
def literal? (text : List Char) : Option Int :=
  match Text.trim text with
  | '0' :: 'x' :: digits => Text.readLong? 16 digits
  | '0' :: 'X' :: digits => Text.readLong? 16 digits
  | '+' :: _ => none
  | text => Text.readLong? 10 text

end ApiTrace.Declaration
