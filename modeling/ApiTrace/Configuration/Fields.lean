import ApiTrace.Text.Numeral
import ApiTrace.Toml.Value

/-!
# Reading records from TOML values

A record may be spelled as a table, or as an array that gives its fields in order. Unknown fields of
a table and surplus items of an array are ignored. An error names the place in the document.
-/

namespace ApiTrace.Toml

/-- A way to read a value; the text names its place in the document. -/
abbrev Reader (α : Type) := String → Value → Except String α

/-- A text. -/
def readText : Reader String
  | _, .text value => .ok value
  | place, _ => .error (place ++ " is not a text")

/-- A truth value. -/
def readBoolean : Reader Bool
  | _, .boolean value => .ok value
  | place, _ => .error (place ++ " is neither true nor false")

/-- The items of an array, numbered from `number`. -/
def readItems {α : Type} (read : Reader α) (place : String) (number : Nat) :
    List Value → Except String (List α)
  | [] => .ok []
  | item :: items => do
    let first ← read (place ++ "[" ++ Text.showNat number ++ "]") item
    return first :: (← readItems read place (number + 1) items)

/-- An array. -/
def readList {α : Type} (read : Reader α) : Reader (List α)
  | place, .array items => readItems read place 0 items
  | place, _ => .error (place ++ " is not an array")

/-- The spelling of a record. -/
inductive Fields where
  | named (place : String) (entries : List (String × Value))
  | ordered (place : String) (items : List Value)

/-- The fields of a record. A date or a time counts as a table of unknown fields. -/
def readFields : Reader Fields
  | place, .table entries => .ok (.named place entries)
  | place, .array items => .ok (.ordered place items)
  | place, .moment _ => .ok (.named place [])
  | place, _ => .error (place ++ " is not a table")

namespace Fields

/-- Where the record stands. -/
def place : Fields → String
  | .named place _ => place
  | .ordered place _ => place

/-- The value of the field that has this name and this position. -/
def find? (fields : Fields) (position : Nat) (name : String) : Option Value :=
  match fields with
  | .named _ entries => entries.lookup name
  | .ordered _ items => items[position]?

/-- The place of a field. -/
def placeOf (fields : Fields) (name : String) : String :=
  if fields.place.isEmpty then name else fields.place ++ "." ++ name

/-- Read a field that may be absent. -/
def read? {α : Type} (fields : Fields) (position : Nat) (name : String) (read : Reader α) :
    Except String (Option α) :=
  match fields.find? position name with
  | some value => (read (fields.placeOf name) value).map some
  | none => .ok none

/-- Read a field that has a default. -/
def readOr {α : Type} (fields : Fields) (position : Nat) (name : String) (read : Reader α)
    (fallback : α) : Except String α :=
  (fields.read? position name read).map fun value => value.getD fallback

/-- Read a field that must be there. -/
def need {α : Type} (fields : Fields) (position : Nat) (name : String) (read : Reader α) :
    Except String α := do
  match ← fields.read? position name read with
  | some value => return value
  | none => .error (fields.placeOf name ++ " is missing")

end Fields

end ApiTrace.Toml
