import ApiTrace.Header.Callback
import ApiTrace.Symbol.Dispatch
import ApiTrace.Symbol.EnumReading
import ApiTrace.Symbol.Parameters

/-!
# Symbol tables

Everything a run knows about the traced interface: its functions in the order of their declarations,
their slots, the enumerations, and the functions that no slot covers. A function without a slot is
an error unless partial coverage is tolerated.
-/

namespace ApiTrace

/-- The symbols of a set of headers. -/
structure SymbolTable where
  /-- The functions, in the order of their first declarations. -/
  functions : List Function
  slots : NameMap Slot
  enums : EnumCollection
  /-- Functions without a slot. -/
  uncovered : List String
  /-- The version line of the first header. -/
  apiVersion : Option String

namespace SymbolTable

/-- The function of a name. -/
def function? (table : SymbolTable) (name : String) : Option Function :=
  table.functions.find? fun function => function.name = name

/-- The guard of a function's slot. -/
def guardOf (table : SymbolTable) (function : String) : Option Guard :=
  (table.slots.find? function).bind Slot.guard

/-- The functions that have a slot, with it, in the order of declaration. -/
def mapped (table : SymbolTable) : List (Function × Slot) :=
  table.functions.filterMap fun function =>
    (table.slots.find? function.name).map fun slot => (function, slot)

/-- The names of the functions, in the order of declaration. -/
def functionNames (table : SymbolTable) : List String :=
  table.functions.map Function.name

end SymbolTable

/-- Append the names that are new; a repeated declaration is only noted. -/
def addNames (file : String) (names : List String) (declared : List String) :
    Journalled ScanError (List String) :=
  declared.foldlM (fun names name => do
    if names.contains name then
      .write .debug (name ++ " declared again in " ++ file ++ ", ignored")
      return names
    else
      return names ++ [name]) names

/-- The functions that the headers declare, each once. -/
def declaredNames (dialect : Dialect) (headers : List Header) :
    Journalled ScanError (List String) :=
  headers.foldlM (fun names header => do
    let declared ← header.callbacks dialect
    addNames header.name names declared) []

/-- A function with the parameters of its structure. -/
def describeFunction (dialect : Dialect) (headers : List Header) (name : String) :
    Except ScanError Function := do
  let struct := dialect.parameterStruct name
  let header ← headerOf headers struct
  let parameters ← readParameters header name struct
  return ⟨name, parameters, struct, dialect.resultType⟩

/-- The functions without a slot, or the error about the first of them. -/
def findUncovered (dialect : Dialect) (slots : NameMap Slot) (tolerant : Bool) :
    List Function → Journalled ScanError (List String)
  | [] => return []
  | function :: functions => do
    if slots.contains function.name then
      findUncovered dialect slots tolerant functions
    else if tolerant then
      .write .warning
        (function.name ++ " has no slot in " ++ dialect.dispatchTable ++
          ", registering it per function")
      return function.name :: (← findUncovered dialect slots tolerant functions)
    else
      .fail (.withoutSlot function.name dialect.dispatchTable)

/-- The symbols of the interface headers and the enumerations of the enum headers. -/
def buildTable (dialect : Dialect) (tolerant : Bool) (headers enumHeaders : List Header) :
    Journalled ScanError SymbolTable := do
  let names ← declaredNames dialect headers
  let functions ← Journalled.ofExcept (names.mapM (describeFunction dialect headers))
  let slots ← readSlots headers dialect
  let uncovered ← findUncovered dialect slots tolerant functions
  let enums ← collectEnums enumHeaders
  let apiVersion := headers.head?.bind fun header => header.versionLine? dialect.versionMarker
  .write .debug
    (Text.showNat functions.length ++ " functions, " ++ Text.showNat slots.size ++ " mapped, " ++
      Text.showNat enums.size ++ " enums")
  return ⟨functions, slots, enums, uncovered, apiVersion⟩

end ApiTrace
