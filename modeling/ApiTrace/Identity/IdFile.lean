import ApiTrace.Identity.IdMap

/-!
# Reading shipped numbers

Shipped numbers stand in the header of the last run, on the lines `name_id=N,` between the sentinel
`reserved_` and the line that closes the enumeration.
-/

namespace ApiTrace.IdMap

/-- The text that marks the sentinel line. -/
def sentinel : List Char := "reserved_".toList

/-- The text that marks the line after the last entry. -/
def enumMark : List Char := "pti_api_id_".toList

/-- Whether a trimmed line closes the enumeration. -/
def closes (line : List Char) : Bool :=
  ['\x7d'].isPrefixOf line || Text.contains enumMark line

/-- Whether a trimmed line between entries carries nothing. -/
def carriesNothing (line : List Char) : Bool :=
  line.isEmpty || ['/', '/'].isPrefixOf line

/-- The name and the number of an entry line. -/
def readEntry? (line : List Char) : Option (String × Nat) := do
  let (left, right) ← Text.splitOnce? ['='] line
  let name ← Text.dropEnd? "_id".toList (Text.trim left)
  let number ← Text.readWord? (Text.trim (Text.dropEndWhile (· == ',') (Text.trim right)))
  if name.isEmpty then none else some (String.ofList name, number)

/-- Add the entries of the lines up to the end of the enumeration. -/
def readEntries (file : String) (map : IdMap) : List NumberedLine → Except IdError IdMap
  | [] => .ok map
  | numbered :: lines =>
    let line := Text.trim numbered.text
    if closes line then .ok map
    else if carriesNothing line then readEntries file map lines
    else
      match readEntry? line with
      | none => .error (.malformed file numbered.number (String.ofList line))
      | some (name, number) =>
        match map.insert file name number with
        | .error error => .error error
        | .ok map => readEntries file map lines

/-- The shipped numbers of a header. A header of blank lines ships none. -/
def ofHeader (header : Header) : Except IdError IdMap :=
  if header.lines.all fun line => line.all Text.isBlank then .ok ∅
  else
    match header.numbered.dropWhile fun line => !Text.contains sentinel line.text with
    | [] => .error (.malformed header.name 1 "no `reserved_` sentinel")
    | _ :: lines => readEntries header.name ∅ lines

/-- The shipped numbers in the text of a header. -/
def parse (file text : String) : Except IdError IdMap :=
  ofHeader (.ofText file text)

end ApiTrace.IdMap
