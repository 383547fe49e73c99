import ApiTrace.Toml.Quoted
import ApiTrace.Toml.Scalar
import ApiTrace.Toml.Table

/-!
# TOML documents

A document is a sequence of statements, one a line: a header, a key with its value, or nothing but a
comment. `parse` reads all of them or reports the line of the first that is malformed.
-/

namespace ApiTrace.Toml

/-- A blank within a line. -/
def isSpace (c : Char) : Bool :=
  c == ' ' || c == '\t'

/-- Skip blanks within a line. -/
def skipSpace (text : List Char) : List Char :=
  text.dropWhile isSpace

/-- Skip blanks, line endings and comments. -/
def skipFiller (inComment : Bool) : List Char → List Char
  | [] => []
  | '\n' :: text => skipFiller false text
  | '\r' :: '\n' :: text => skipFiller false text
  | c :: text =>
    if inComment then
      if isPlain c then skipFiller true text else c :: text
    else if c = '#' then skipFiller true text
    else if isSpace c then skipFiller false text
    else c :: text

/-- What follows a line of which only a comment is left. -/
def lineEnd? (text : List Char) : Option (List Char) :=
  let rest := match skipSpace text with
    | '#' :: comment => comment.dropWhile isPlain
    | rest => rest
  if rest.isEmpty then some [] else lineEnding? rest

/-- Whether a key may have `c` without quotes. -/
def isBareKeyChar (c : Char) : Bool :=
  c.isAlphanum || c == '_' || c == '-'

/-- One part of a dotted key. -/
def keyPart? (text : List Char) : Option (String × List Char) :=
  match quotedLine? text with
  | some part => some part
  | none =>
    match text.takeWhile isBareKeyChar with
    | [] => none
    | part => some (String.ofList part, text.dropWhile isBareKeyChar)

/-- A dotted key of at most `limit` parts, with the blanks around them. -/
def key? (limit : Nat) (text : List Char) : Option (List String × List Char) :=
  match limit with
  | 0 => none
  | limit + 1 =>
    match keyPart? (skipSpace text) with
    | none => none
    | some (part, rest) =>
      match skipSpace rest with
      | '.' :: rest => (key? limit rest).map fun (parts, rest) => (part :: parts, rest)
      | rest => some ([part], rest)

/-- How deep values and keys may be nested. -/
def maxNesting : Nat := 79

/-- The spelling of a scalar at the start of a text. A blank joins a date to a time of day. -/
def spelling (text : List Char) : List Char × List Char :=
  let word := text.takeWhile isScalarChar
  let rest := text.dropWhile isScalarChar
  match date? word, rest with
  | some [], ' ' :: hour :: digit :: ':' :: _ =>
    if hour.isDigit && digit.isDigit then
      (word ++ ' ' :: (rest.drop 1).takeWhile isScalarChar, (rest.drop 1).dropWhile isScalarChar)
    else (word, rest)
  | _, _ => (word, rest)

mutual

/-- A value at the start of a text. -/
def value? (fuel depth : Nat) (text : List Char) : Option (Value × List Char) :=
  match fuel with
  | 0 => none
  | fuel + 1 =>
    match text, depth with
    | '[' :: _, 0 => none
    | '{' :: _, 0 => none
    | '[' :: rest, depth + 1 =>
      (items? fuel depth (skipFiller false rest)).map fun (items, rest) => (.array items, rest)
    | '{' :: rest, depth + 1 =>
      match skipSpace rest with
      | '}' :: rest => some (.table [], rest)
      | rest => (pairs? fuel depth [] rest).map fun (entries, rest) =>
        (.table (completeEntries entries), rest)
    | '"' :: _, _ => (quoted? text).map fun (value, rest) => (.text value, rest)
    | '\x27' :: _, _ => (quoted? text).map fun (value, rest) => (.text value, rest)
    | _, _ =>
      let (word, rest) := spelling text
      (scalar? word).map fun value => (value, rest)

/-- The rest of an array. -/
def items? (fuel depth : Nat) (text : List Char) : Option (List Value × List Char) :=
  match fuel with
  | 0 => none
  | fuel + 1 =>
    match text with
    | ']' :: rest => some ([], rest)
    | _ =>
      match value? fuel depth text with
      | none => none
      | some (item, rest) =>
        match skipFiller false rest with
        | ',' :: rest =>
          (items? fuel depth (skipFiller false rest)).map fun (items, rest) => (item :: items, rest)
        | ']' :: rest => some ([item], rest)
        | _ => none

/-- The rest of a table on one line, after its entries so far. -/
def pairs? (fuel depth : Nat) (entries : Entries) (text : List Char) :
    Option (Entries × List Char) :=
  match fuel with
  | 0 => none
  | fuel + 1 =>
    match key? maxNesting text with
    | some (key, '=' :: rest) =>
      match value? fuel depth (skipSpace rest) with
      | none => none
      | some (value, rest) =>
        match assign? value key entries, skipSpace rest with
        | some entries, ',' :: rest => pairs? fuel depth entries rest
        | some entries, '}' :: rest => some (entries, rest)
        | _, _ => none
    | _ => none

end

/-- A statement of a document. -/
inductive Statement where
  | table (key : List String)
  | element (key : List String)
  | pair (key : List String) (value : Value)
  /-- A line without a statement. -/
  | nothing

/-- The statement at the start of a text, with its line ending. -/
def statement? (text : List Char) : Option (Statement × List Char) :=
  match skipSpace text with
  | '[' :: '[' :: rest =>
    match key? maxNesting rest with
    | some (key, ']' :: ']' :: rest) => (lineEnd? rest).map fun rest => (.element key, rest)
    | _ => none
  | '[' :: rest =>
    match key? maxNesting rest with
    | some (key, ']' :: rest) => (lineEnd? rest).map fun rest => (.table key, rest)
    | _ => none
  | start =>
    match lineEnd? start with
    | some rest => some (.nothing, rest)
    | none =>
      match key? maxNesting start with
      | some (key, '=' :: rest) =>
        match value? (2 * rest.length + 2) maxNesting (skipSpace rest) with
        | some (value, rest) => (lineEnd? rest).map fun rest => (.pair key value, rest)
        | none => none
      | _ => none

/-- A document that is read in part. -/
structure Draft where
  root : Entries
  /-- The key of the last header. -/
  opened : List String

/-- Add a statement. -/
def Draft.add? (draft : Draft) : Statement → Option Draft
  | .table key => (within? openTable? key draft.root).map fun root => ⟨root, key⟩
  | .element key => (within? openElement? key draft.root).map fun root => ⟨root, key⟩
  | .pair key value =>
    (assignIn? draft.opened key value draft.root).map fun root => { draft with root := root }
  | .nothing => some draft

/-- Read the statements of a text. The error is the text from the malformed statement on. -/
def readStatements (fuel : Nat) (draft : Draft) (text : List Char) : Except (List Char) Draft :=
  match fuel, text with
  | _, [] => .ok draft
  | 0, text => .error text
  | fuel + 1, text =>
    match statement? text with
    | none => .error text
    | some (statement, rest) =>
      match draft.add? statement with
      | none => .error text
      | some draft => readStatements fuel draft rest

/-- The entries of a document, or the number of its first malformed line. -/
def parse (text : String) : Except Nat (List (String × Value)) :=
  let start := match text.toList with
    | '\uFEFF' :: rest => rest
    | rest => rest
  match readStatements start.length ⟨[], []⟩ start with
  | .ok draft => .ok (completeEntries draft.root)
  | .error rest =>
    .error ((start.take (start.length - rest.length)).countP (· == '\n') + 1)

end ApiTrace.Toml
