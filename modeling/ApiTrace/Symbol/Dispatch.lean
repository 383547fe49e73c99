import ApiTrace.Header.Conditional
import ApiTrace.Header.Declaration
import ApiTrace.Journal
import ApiTrace.NameMap
import ApiTrace.Symbol.Function

/-!
# Dispatch table

The dispatch table is a structure of groups, and a group is a structure of callback pointers.
Reading it gives every function the slot of its callback; a function with two slots is refused.
-/

namespace ApiTrace

/-- The names of headers as one text. -/
def headerNames (headers : List Header) : String :=
  String.intercalate ", " (headers.map Header.name)

/-- The first header that mentions a structure. -/
def headerOf (headers : List Header) (struct : String) : Except ScanError Header :=
  match headers.find? fun header => header.mentions struct with
  | some header => .ok header
  | none => .error (.structureNotFound (headerNames headers) struct)

/-- The field that a kept line declares. -/
def fieldOf (header : Header) (line : GuardedLine) : Except ScanError Declaration.StructField :=
  match Declaration.structField line.text with
  | .ok field => .ok field
  | .error expected =>
    .error (.unrecognized header.name line.number (String.ofList line.text) expected)

/-- The function of a callback pointer. -/
def callbackOf (dialect : Dialect) (header : Header) (line : GuardedLine)
    (leaf : Declaration.StructField) : Except ScanError String :=
  match dialect.functionOfCallback? leaf.type.toList with
  | some function => .ok function
  | none => .error (.unrecognized header.name line.number (String.ofList line.text) .callbackField)

/-- Give a function its slot. -/
def addSlot (slots : NameMap Slot) (function : String) (slot : Slot) :
    Journalled ScanError (NameMap Slot) :=
  match slots.find? function with
  | some first => .fail (.severalSlots function first.memberPath slot.memberPath)
  | none => do
    .write .debug (function ++ " -> " ++ slot.memberPath)
    return slots.insert function slot

/-- Add the slot that a callback pointer of a group describes. -/
def addLeaf (dialect : Dialect) (header : Header) (group : Declaration.StructField)
    (groupGuard : Option Guard) (slots : NameMap Slot) (line : GuardedLine) :
    Journalled ScanError (NameMap Slot) := do
  let leaf ← fieldOf header line
  let function ← callbackOf dialect header line leaf
  addSlot slots function ⟨group.field, groupGuard, leaf.field, line.guard⟩

/-- Add the slots of all callback pointers of a group. -/
def addGroup (dialect : Dialect) (headers : List Header) (table : Header) (slots : NameMap Slot)
    (line : GuardedLine) : Journalled ScanError (NameMap Slot) := do
  let group ← fieldOf table line
  let header ← headerOf headers group.type
  let leaves ← header.guardedBody group.type
  leaves.foldlM (addLeaf dialect header group line.guard) slots

/-- The slot of every function in the dispatch table. -/
def readSlots (headers : List Header) (dialect : Dialect) :
    Journalled ScanError (NameMap Slot) := do
  let table ← headerOf headers dialect.dispatchTable
  let groups ← table.guardedBody dialect.dispatchTable
  if groups.isEmpty then
    .fail (.emptyStructure table.name dialect.dispatchTable)
  else
    groups.foldlM (addGroup dialect headers table) ∅

end ApiTrace
