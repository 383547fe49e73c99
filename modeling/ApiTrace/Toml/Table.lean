import ApiTrace.Toml.Value

/-!
# Growing TOML tables

While a document is read, its tables grow. Whether a table may still be named by a header or
extended by a dotted key depends on how it came about, so a growing table remembers that. Every
function here yields nothing when the document would define something twice.
-/

namespace ApiTrace.Toml

/-- How a table came about. -/
inductive Origin where
  /-- On the way to a table that a header names. -/
  | passing
  /-- By its own header. -/
  | header
  /-- By a dotted key. -/
  | dotted
  deriving DecidableEq

/-- What a key of a growing table stands for. -/
inductive Item where
  | value (value : Value)
  | table (origin : Origin) (entries : List (String × Item))
  /-- Tables of one name, each with its own header; only the newest grows. -/
  | tables (older : List (List (String × Item))) (newest : List (String × Item))

/-- The entries of a growing table. -/
abbrev Entries := List (String × Item)

/-- Replace what a key stands for, or add the key. -/
def setItem (key : String) (item : Item) : Entries → Entries
  | [] => [(key, item)]
  | (other, kept) :: entries =>
    if other = key then (key, item) :: entries else (other, kept) :: setItem key item entries

/-- Follow all keys but the last through a table, creating tables on the way, and change the table
that has the last one. -/
def within? (change : String → Entries → Option Entries) : List String → Entries → Option Entries
  | [], _ => none
  | [key], entries => change key entries
  | key :: keys, entries =>
    match entries.lookup key with
    | none => (within? change keys []).map fun inner => setItem key (.table .passing inner) entries
    | some (.table origin inner) =>
      (within? change keys inner).map fun inner => setItem key (.table origin inner) entries
    | some (.tables older newest) =>
      (within? change keys newest).map fun newest => setItem key (.tables older newest) entries
    | some (.value _) => none

/-- The header of a table. -/
def openTable? (key : String) (entries : Entries) : Option Entries :=
  match entries.lookup key with
  | none => some (setItem key (.table .header []) entries)
  | some (.table .passing inner) => some (setItem key (.table .header inner) entries)
  | _ => none

/-- The header of one more table of a name. -/
def openElement? (key : String) (entries : Entries) : Option Entries :=
  match entries.lookup key with
  | none => some (setItem key (.tables [] []) entries)
  | some (.tables older newest) => some (setItem key (.tables (older ++ [newest]) []) entries)
  | _ => none

/-- Change the table, or the newest of the tables, that a key stands for. -/
def reopen? (change : Entries → Option Entries) (key : String) (entries : Entries) :
    Option Entries :=
  match entries.lookup key with
  | some (.table origin inner) =>
    (change inner).map fun inner => setItem key (.table origin inner) entries
  | some (.tables older newest) =>
    (change newest).map fun newest => setItem key (.tables older newest) entries
  | _ => none

/-- Give a dotted key its value. The tables on the way must not have a header, and the last of them
must have come about by a dotted key. -/
def assign? (value : Value) : List String → Entries → Option Entries
  | [], _ => none
  | [key], entries =>
    match entries.lookup key with
    | none => some (setItem key (.value value) entries)
    | some _ => none
  | key :: next :: keys, entries =>
    match entries.lookup key with
    | none =>
      (assign? value (next :: keys) []).map fun inner => setItem key (.table .dotted inner) entries
    | some (.table origin inner) =>
      if origin = .header ∨ (keys = [] ∧ origin = .passing) then none
      else (assign? value (next :: keys) inner).map fun inner =>
        setItem key (.table origin inner) entries
    | some (.tables older newest) =>
      if keys = [] then none
      else (assign? value (next :: keys) newest).map fun newest =>
        setItem key (.tables older newest) entries
    | some (.value _) => none

/-- Give a dotted key its value in the table that a header opened last; no keys stand for the table
of the whole document. -/
def assignIn? (opened key : List String) (value : Value) (root : Entries) : Option Entries :=
  if opened.isEmpty then assign? value key root
  else within? (reopen? (assign? value key)) opened root

mutual

/-- What a key stands for once its table is complete. -/
def Item.complete : Item → Value
  | .value value => value
  | .table _ entries => .table (completeEntries entries)
  | .tables older newest => .array (completeTables older ++ [.table (completeEntries newest)])

/-- The entries of a complete table. -/
def completeEntries : List (String × Item) → List (String × Value)
  | [] => []
  | (key, item) :: entries => (key, item.complete) :: completeEntries entries

/-- Complete tables of one name. -/
def completeTables : List (List (String × Item)) → List Value
  | [] => []
  | entries :: tables => .table (completeEntries entries) :: completeTables tables

end

end ApiTrace.Toml
