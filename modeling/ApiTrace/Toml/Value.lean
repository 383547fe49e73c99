/-!
# TOML values

The values that a TOML document can hold. Numbers that are not integers, dates and times keep their
spelling, because nothing here computes with them.
-/

namespace ApiTrace.Toml

/-- A value of a document. -/
inductive Value where
  | text (value : String)
  | integer (value : Int)
  | float (spelling : String)
  | boolean (value : Bool)
  /-- A date, a time, or both. -/
  | moment (spelling : String)
  | array (items : List Value)
  | table (entries : List (String × Value))
  deriving Inhabited

end ApiTrace.Toml
