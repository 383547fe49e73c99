import ApiTrace.Text.Numeral

/-!
# JSON documents

JSON values with ordered fields, and their indented text: two blanks for a level, one item on a
line, and nothing between the brackets of an empty list.
-/

namespace ApiTrace

/-- A JSON value; fields keep their order. -/
inductive Json where
  | null
  | boolean (value : Bool)
  | number (value : Int)
  | text (value : String)
  | list (items : List Json)
  | record (fields : List (String × Json))

namespace Json

/-- A natural number as a value. -/
def nat (value : Nat) : Json := .number value

/-- A list of texts. -/
def texts (values : List String) : Json := .list (values.map .text)

/-- A text that may be absent. -/
def optional : Option String → Json
  | some value => .text value
  | none => .null

/-- A character inside quotes: quotes, backslashes and control characters are escaped. -/
def escape (c : Char) : List Char :=
  match c with
  | '"' => ['\\', '"']
  | '\\' => ['\\', '\\']
  | '\n' => ['\\', 'n']
  | '\r' => ['\\', 'r']
  | '\t' => ['\\', 't']
  | '\x08' => ['\\', 'b']
  | '\x0c' => ['\\', 'f']
  | c =>
    if c.toNat < 32 then '\\' :: 'u' :: '0' :: '0' :: Text.hexByte c.toNat else [c]

/-- A text in quotes. -/
def quote (value : String) : String :=
  "\"" ++ String.ofList (value.toList.flatMap escape) ++ "\""

/-- A new line at a level of indentation. -/
def newLine (level : Nat) : String :=
  "\n" ++ String.ofList (List.replicate (2 * level) ' ')

mutual

/-- The text of a value whose first line stands at `level`. -/
def pretty (level : Nat) : Json → String
  | .null => "null"
  | .boolean value => if value then "true" else "false"
  | .number value => String.ofList (Text.decimalInt value)
  | .text value => quote value
  | .list [] => "[]"
  | .list (item :: items) =>
    "[" ++ newLine (level + 1) ++ pretty (level + 1) item ++ prettyItems (level + 1) items ++
      newLine level ++ "]"
  | .record [] => "\x7b\x7d"
  | .record ((name, value) :: fields) =>
    "\x7b" ++ newLine (level + 1) ++ quote name ++ ": " ++ pretty (level + 1) value ++
      prettyFields (level + 1) fields ++ newLine level ++ "\x7d"

/-- The further items of a list, each after a comma. -/
def prettyItems (level : Nat) : List Json → String
  | [] => ""
  | item :: items => "," ++ newLine level ++ pretty level item ++ prettyItems level items

/-- The further fields of a record, each after a comma. -/
def prettyFields (level : Nat) : List (String × Json) → String
  | [] => ""
  | (name, value) :: fields =>
    "," ++ newLine level ++ quote name ++ ": " ++ pretty level value ++ prettyFields level fields

end

/-- The text of a document. -/
def render (document : Json) : String :=
  pretty 0 document

end Json

end ApiTrace
