import ApiTrace.Header.Error
import ApiTrace.Text.Blank
import ApiTrace.Text.Line
import ApiTrace.Text.Search

/-!
# Headers

A header is a named list of lines. Structures are found by the first line that mentions their name;
the body of a structure lies between the first line with an opening brace and the next line with a
closing one, so bodies do not nest.
-/

namespace ApiTrace

/-- A header file as its lines. -/
structure Header where
  /-- The name of the file, without directories. -/
  name : String
  /-- The lines, without their endings. -/
  lines : List (List Char)
  deriving DecidableEq, Repr

/-- A line with its number, counted from one. -/
structure NumberedLine where
  number : Nat
  text : List Char
  deriving DecidableEq, Repr

/-- A stretch of lines, by indices counted from zero, the end excluded. -/
structure Span where
  start : Nat
  stop : Nat
  deriving DecidableEq, Repr

namespace Header

/-- The header of a text. -/
def ofText (name text : String) : Header :=
  ⟨name, Text.lines text.toList⟩

/-- The header of the bytes of a file that is known by `name`. -/
def ofBytes (name : String) (bytes : ByteArray) : Except ScanError Header :=
  match String.fromUTF8? bytes with
  | some text => .ok (ofText name text)
  | none => .error (.unreadable name .notText)

/-- The index of the first line from `start` on that satisfies `p`. -/
def findFrom? (header : Header) (start : Nat) (p : List Char → Bool) : Option Nat :=
  ((header.lines.drop start).findIdx? p).map fun index => start + index

/-- The index of the first line that contains `needle`. -/
def find? (header : Header) (needle : List Char) : Option Nat :=
  header.lines.findIdx? (Text.contains needle)

/-- Whether some line contains `needle`. -/
def mentions (header : Header) (needle : String) : Bool :=
  (header.find? needle.toList).isSome

/-- Whether a closing brace follows the first opening one. -/
def closesOnOpeningLine (line : List Char) : Bool :=
  (line.dropWhile fun c => c != '\x7b').contains '\x7d'

/-- The body that opens on the first line from `line` on with an opening brace. A body that closes
on its opening line is empty. -/
def bodyFrom (header : Header) (line : Nat) (name : String) : Except ScanError Span :=
  match header.findFrom? line (fun text => text.contains '\x7b') with
  | none => .error (.unbalancedBrace header.name name (line + 1) '\x7b')
  | some opening =>
    if (header.lines[opening]?.map closesOnOpeningLine).getD false then
      .ok ⟨opening + 1, opening + 1⟩
    else
      match header.findFrom? (opening + 1) (fun text => text.contains '\x7d') with
      | none => .error (.unbalancedBrace header.name name (opening + 1) '\x7d')
      | some closing => .ok ⟨opening + 1, closing⟩

/-- The body of the structure that the first mention of `name` introduces. -/
def body (header : Header) (name : String) : Except ScanError Span :=
  match header.find? name.toList with
  | none => .error (.structureNotFound header.name name)
  | some line => header.bodyFrom line name

/-- The lines of a stretch with their numbers. -/
def slice (header : Header) (span : Span) : List NumberedLine :=
  (((header.lines.drop span.start).take (span.stop - span.start)).zipIdx (span.start + 1)).map
    fun (text, number) => ⟨number, text⟩

/-- Line `place` of a stretch is the line of the header that lies so far behind the start, with its
number in the header. -/
theorem getElem?_slice (header : Header) (span : Span) (place : Nat) :
    (header.slice span)[place]? =
      if place < span.stop - span.start then
        header.lines[span.start + place]?.map fun text => ⟨span.start + 1 + place, text⟩
      else none := by
  rw [slice, List.getElem?_map, List.getElem?_zipIdx, List.getElem?_take, List.getElem?_drop]
  split
  · rw [Option.map_map]
    rfl
  · rfl

/-- All lines with their numbers. -/
def numbered (header : Header) : List NumberedLine :=
  header.slice ⟨0, header.lines.length⟩

theorem map_text_numbered (header : Header) :
    header.numbered.map NumberedLine.text = header.lines := by
  rw [numbered, slice, List.map_map, List.drop_zero, Nat.sub_zero, List.take_length]
  exact List.zipIdx_map_fst 1 header.lines

/-- Whether `c` decorates comments: a slash, an asterisk or a blank. -/
def isDecoration (c : Char) : Bool :=
  c == '/' || c == '*' || Text.isBlank c

/-- The first line that contains `marker`, without the comment decoration in front. -/
def versionLine? (header : Header) (marker : String) : Option String :=
  (header.lines.find? (Text.contains marker.toList)).map fun line =>
    String.ofList ((Text.trim line).dropWhile isDecoration)

end Header

end ApiTrace
