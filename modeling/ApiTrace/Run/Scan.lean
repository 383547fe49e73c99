import ApiTrace.Json
import ApiTrace.Run.Source
import ApiTrace.Symbol.Table

/-!
# Scanning

A scan shows what the generator would see in a set of headers, without writing anything.
-/

namespace ApiTrace

/-- What to scan. -/
structure ScanOptions where
  includeDirectory : Path
  /-- The headers, relative to the include directory; if there are none, those of the traced
  category. -/
  headers : List String := []
  allowPartial : Bool := false
  deriving DecidableEq, Repr

/-- A function as a scan shows it. -/
structure ScannedFunction where
  function : Function
  callback : String
  /-- The slot, unless the function is registered by itself. -/
  slot : Option Slot
  deriving DecidableEq, Repr

/-- How many members of an enumeration there are, and how many have known numbers. -/
structure ScannedEnum where
  name : String
  members : Nat
  resolved : Nat
  deriving DecidableEq, Repr

/-- What a scan found. -/
structure ScanReport where
  headers : List String
  apiVersion : Option String
  functions : List ScannedFunction
  uncovered : List String
  enums : List ScannedEnum
  deriving DecidableEq, Repr

/-- The headers of the first traced category. -/
def tracedHeaders (configuration : Configuration) : Except RunError (List String) :=
  match configuration.categories.find? CategorySource.isTraced with
  | some source => .ok source.headers
  | none => .error .nothingToScan

/-- The symbols of some headers, with the enumerations of all headers of a directory. -/
def readSymbols (workspace : Workspace) (configuration : Configuration) (allowPartial : Bool)
    (headers : List Header) (directory : Path) : Journalled RunError SymbolTable := do
  let enumHeaders ← workspace.openHeaders directory
  let tolerant := configuration.toleratesPartial || allowPartial
  (buildTable configuration.dialect tolerant headers enumHeaders).mapError RunError.scan

/-- What a scan shows of some symbols. -/
def describeSymbols (dialect : Dialect) (headers : List String) (table : SymbolTable) :
    ScanReport where
  headers := headers
  apiVersion := table.apiVersion
  functions := table.functions.map fun function =>
    ⟨function, dialect.callbackType function.name, table.slots.find? function.name⟩
  uncovered := table.uncovered
  enums := table.enums.values.map fun collected =>
    { name := collected.enumeration.name
      members := collected.enumeration.members.length
      resolved := collected.enumeration.resolved.length }

/-- Scan a set of headers. -/
def scan (configuration : Configuration) (options : ScanOptions) (workspace : Workspace) :
    Journalled RunError ScanReport := do
  let names ← if options.headers.isEmpty then tracedHeaders configuration else pure options.headers
  let paths := names.map fun name => options.includeDirectory.join ⟨name⟩
  let headers ← (paths.mapM workspace.openHeader).mapError RunError.scan
  let table ←
    readSymbols workspace configuration options.allowPartial headers options.includeDirectory
  return describeSymbols configuration.dialect names table

namespace ScannedFunction

/-- The access path of the slot. -/
def memberPath? (scanned : ScannedFunction) : Option String :=
  scanned.slot.map Slot.memberPath

/-- The condition under which the slot exists. -/
def condition? (scanned : ScannedFunction) : Option String :=
  (scanned.slot.bind Slot.guard).map Guard.condition

/-- The lines of a function in a listing. -/
def lines (scanned : ScannedFunction) : List String :=
  ("  " ++ scanned.function.name ++ " -> " ++
      scanned.memberPath?.getD "(registered per function)") ::
    (scanned.condition?.map fun condition => "      #if " ++ condition).toList ++
    scanned.function.parameters.map fun parameter =>
      "      " ++ parameter.type ++ " " ++ parameter.name

/-- A function as JSON. -/
def toJson (scanned : ScannedFunction) : Json :=
  .record [
    ("name", .text scanned.function.name),
    ("callback", .text scanned.callback),
    ("param_struct", .text scanned.function.parameterStruct),
    ("params", .list (scanned.function.parameters.map fun parameter =>
      .record [("name", .text parameter.name), ("type", .text parameter.type)])),
    ("slot", .optional scanned.memberPath?),
    ("guard", .optional scanned.condition?)]

end ScannedFunction

namespace ScannedEnum

/-- The line of an enumeration in a listing. -/
def line (scanned : ScannedEnum) : String :=
  "  " ++ scanned.name ++ " (" ++ Text.showNat scanned.members ++ " members, " ++
    Text.showNat scanned.resolved ++ " resolved)"

/-- An enumeration as JSON. -/
def toJson (scanned : ScannedEnum) : Json :=
  .record [
    ("name", .text scanned.name),
    ("members", .nat scanned.members),
    ("resolved", .nat scanned.resolved)]

end ScannedEnum

namespace ScanReport

/-- The lines of a listing. -/
def lines (report : ScanReport) : List String :=
  ("Headers: " ++ String.intercalate ", " report.headers) ::
    (report.apiVersion.map fun version => "Version: " ++ version).toList ++
    ["", "Functions (" ++ Text.showNat report.functions.length ++ "):"] ++
    report.functions.flatMap ScannedFunction.lines ++
    ["", "Enums (" ++ Text.showNat report.enums.length ++ "):"] ++
    report.enums.map ScannedEnum.line

/-- A listing for a person. -/
def listing (report : ScanReport) : String :=
  String.join (report.lines.map fun line => line ++ "\n")

/-- A report as JSON. -/
def toJson (report : ScanReport) : Json :=
  .record [
    ("headers", .texts report.headers),
    ("api_version", .optional report.apiVersion),
    ("functions", .list (report.functions.map ScannedFunction.toJson)),
    ("uncovered", .texts report.uncovered),
    ("enums", .list (report.enums.map ScannedEnum.toJson))]

end ScanReport

end ApiTrace
