import ApiTrace.Identity.Numbering

/-!
# Assignments

An assignment gives every function of a category its number and keeps every shipped pair, unless a
function declares the pair's number; then the pair goes on under a new version and number. The
assignment is what the next run reads back.
-/

namespace ApiTrace

/-- The numbered functions of a category. -/
structure Assignment where
  category : Category
  /-- The records by ascending number. -/
  records : List Record
  events : List Event
  deriving DecidableEq, Repr

/-- Records by ascending number. -/
def sortRecords (records : List Record) : List Record :=
  records.mergeSort fun left right => left.number ≤ right.number

/-- The first entry of `later` that repeats a name or a declared number, or declares zero. -/
def checkEntries (scope : String) (earlier : List Entry) : List Entry → Except IdError Unit
  | [] => .ok ()
  | entry :: later =>
    if earlier.any fun other => other.name = entry.name then
      .error (.duplicateName scope entry.name)
    else
      match entry.declared with
      | none => checkEntries scope (entry :: earlier) later
      | some 0 => .error (.reservedNumber scope entry.name)
      | some number =>
        match declarer? earlier number with
        | some first => .error (.duplicateNumber scope number first entry.name)
        | none => checkEntries scope (entry :: earlier) later

/-- The first record that repeats a number or a name of an earlier one. -/
def checkRecords (scope : String) (earlier : List Record) : List Record → Except IdError Unit
  | [] => .ok ()
  | record :: later =>
    match earlier.find? fun other => other.number = record.number with
    | some first => .error (.duplicateNumber scope record.number first.name record.name)
    | none =>
      if earlier.any fun other => other.name = record.name then
        .error (.duplicateName scope record.name)
      else checkRecords scope (record :: earlier) later

/-- The numbers that are not fresh: the shipped and the declared ones. -/
def takenNumbers (entries : List Entry) (map : IdMap) : List Nat :=
  map.entries.map Prod.snd ++ entries.filterMap Entry.declared

/-- Number the functions of a category, in the order of the header, after the shipped numbers. -/
def assign (category : Category) (entries : List Entry) (map : IdMap) :
    Journalled IdError Assignment := do
  checkEntries category.key [] entries
  let space : NumberSpace := ⟨category, map, takenNumbers entries map⟩
  let numbering ← (plan entries map).foldlM (Numbering.step space) {}
  checkRecords category.key [] numbering.records
  return ⟨category, sortRecords numbering.records, numbering.events⟩

namespace Assignment

/-- The shipped numbers as they are. -/
def ofMap (category : Category) (map : IdMap) : Assignment :=
  let records := map.entries.map fun (name, number) =>
    let versioned := VersionedName.ofName name
    ({ function := versioned.base, number, version := versioned.version, origin := .current } :
      Record)
  ⟨category, sortRecords records, []⟩

/-- The number of a versioned name. -/
def numberOf? (assignment : Assignment) (name : String) : Option Nat :=
  (assignment.records.find? fun record => record.name = name).map Record.number

/-- What the next run reads back. -/
def toMap (assignment : Assignment) : Except IdError IdMap :=
  IdMap.ofPairs assignment.category.key
    (assignment.records.map fun record => (record.name, record.number))

end Assignment

end ApiTrace
