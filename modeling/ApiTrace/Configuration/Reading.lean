import ApiTrace.Configuration.Basic
import ApiTrace.Configuration.Fields
import ApiTrace.Toml.Document

/-!
# Reading configurations

The configuration that a TOML document describes. Whatever the document leaves out has its default;
a category that it lists has empty lists as defaults.
-/

namespace ApiTrace.Configuration

open Toml

/-- A replaced spelling. -/
def readAcronym : Reader Acronym := fun place value => do
  let fields ← readFields place value
  return {
    written := ← fields.need 0 "from" readText
    folded := ← fields.need 1 "to" readText }

/-- The naming conventions of the headers. -/
def readDialect : Reader Dialect := fun place value => do
  let fields ← readFields place value
  let initial : Dialect := {}
  return {
    callMarker := ← fields.readOr 0 "api_call_marker" readText initial.callMarker
    callbackStart := ← fields.readOr 1 "callback_prefix" readText initial.callbackStart
    callbackEnd := ← fields.readOr 2 "callback_suffix" readText initial.callbackEnd
    functionStart := ← fields.readOr 3 "function_prefix" readText initial.functionStart
    dispatchTable := ← fields.readOr 4 "dispatch_table" readText initial.dispatchTable
    parameterStructEnd :=
      ← fields.readOr 5 "param_struct_suffix" readText initial.parameterStructEnd
    resultType := ← fields.readOr 6 "result_type" readText initial.resultType
    acronyms := ← fields.readOr 7 "acronyms" (readList readAcronym) initial.acronyms
    versionMarker := ← fields.readOr 8 "version_marker" readText initial.versionMarker }

/-- Whether functions without a slot are tolerated. -/
def readTolerance : Reader Bool := fun place value => do
  (← readFields place value).readOr 0 "tolerate_partial_coverage" readBoolean false

/-- The names in generated code. -/
def readNaming : Reader Naming := fun place value => do
  let fields ← readFields place value
  let initial : Naming := {}
  return {
    idStart := ← fields.readOr 0 "id_prefix" readText initial.idStart
    enterHookStart := ← fields.readOr 1 "hook_enter_prefix" readText initial.enterHookStart
    exitHookStart := ← fields.readOr 2 "hook_exit_prefix" readText initial.exitHookStart
    registrationFunction :=
      ← fields.readOr 3 "registration_fn" readText initial.registrationFunction
    tracerHandle := ← fields.readOr 4 "tracer_handle" readText initial.tracerHandle
    callbacksType := ← fields.readOr 5 "core_callbacks_type" readText initial.callbacksType
    setPrologues := ← fields.readOr 6 "set_prologues_fn" readText initial.setPrologues
    setEpilogues := ← fields.readOr 7 "set_epilogues_fn" readText initial.setEpilogues
    successValue := ← fields.readOr 8 "success_value" readText initial.successValue
    assertMacro := ← fields.readOr 9 "assert_macro" readText initial.assertMacro
    registerStart := ← fields.readOr 10 "register_callback_prefix" readText initial.registerStart
    registerEnd := ← fields.readOr 11 "register_callback_suffix" readText initial.registerEnd
    prologueFlag := ← fields.readOr 12 "prologue_flag" readText initial.prologueFlag
    epilogueFlag := ← fields.readOr 13 "epilogue_flag" readText initial.epilogueFlag }

/-- How a vendor's enumeration of numbers is written. -/
def readNumberEnum (fields : Fields) : Except String NumberEnum := do
  let initial : NumberEnum := {}
  return {
    enumName := ← fields.readOr 0 "enum_name" readText initial.enumName
    entryStart := ← fields.readOr 1 "entry_prefix" readText initial.entryStart
    nameMarker := ← fields.readOr 2 "name_marker" readText initial.nameMarker
    terminator := ← fields.readOr 3 "terminator" readText initial.terminator }

/-- The kind of a function source and its further fields. An array starts with the kind and may not
have surplus items. -/
def readKind (place : String) (fields : Fields) : Except String (String × Fields) :=
  match fields with
  | .named _ entries =>
    match entries.lookup "kind" with
    | some (.text kind) => .ok (kind, fields)
    | _ => .error (place ++ ".kind is missing")
  | .ordered _ (.text kind :: items) => .ok (kind, .ordered place items)
  | .ordered _ _ => .error (place ++ " does not start with its kind")

/-- How many items may follow the kind of a function source. -/
def admits (count : Nat) : Fields → Bool
  | .named _ _ => true
  | .ordered _ items => items.length ≤ count

/-- Where the functions of a category come from. -/
def readFunctionSource : Reader FunctionSource := fun place value => do
  let (kind, fields) ← readKind place (← readFields place value)
  if kind = "callbacks" ∧ admits 0 fields then return .callbacks
  else if kind = "id_enum" ∧ admits 4 fields then return .vendorNumbers (← readNumberEnum fields)
  else .error (place ++ " is no source of functions")

/-- A category. -/
def readCategory : Reader CategorySource := fun place value => do
  let fields ← readFields place value
  let directory ← fields.read? 4 "include_dir" readText
  return {
    category := {
      domain := ← fields.need 0 "domain" readText
      subdomain := ← fields.need 1 "subdomain" readText }
    functions := ← fields.readOr 2 "source" readFunctionSource .callbacks
    headers := ← fields.readOr 3 "headers" (readList readText) []
    includeDirectory := directory.map Path.mk
    extraFunctions := ← fields.readOr 5 "extra_functions" (readList readText) [] }

/-- A requested converter. -/
def readConverter : Reader ConverterRequest := fun place value => do
  let fields ← readFields place value
  return {
    enumName := ← fields.need 0 "enum_name" readText
    function := ← fields.need 1 "function" readText }

/-- The configuration that the entries of a document describe. -/
def ofEntries (entries : List (String × Value)) : Except String Configuration := do
  let fields : Fields := .named "" entries
  let initial : Configuration := {}
  return {
    dialect := ← fields.readOr 0 "dialect" readDialect initial.dialect
    toleratesPartial := ← fields.readOr 1 "scan" readTolerance initial.toleratesPartial
    naming := ← fields.readOr 2 "output" readNaming initial.naming
    categories := ← fields.readOr 3 "category" (readList readCategory) initial.categories
    converters := ← fields.readOr 4 "converter" (readList readConverter) initial.converters }

/-- The configuration that a text describes, or why it describes none. -/
def parse (text : String) : Except String Configuration :=
  match Toml.parse text with
  | .ok entries => ofEntries entries
  | .error line => .error ("line " ++ Text.showNat line ++ " is malformed")

end ApiTrace.Configuration
