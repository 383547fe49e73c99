import ApiTrace.Text.LetterCase
import ApiTrace.Text.Search
import ApiTrace.Text.Blank

/-!
# Header dialects

A dialect names the conventions of a vendor's headers: how callback types, functions and parameter
structures are called. `functionOfCallback?` decodes the type of a callback and `callbackType` is
the type of a function's callback.
-/

namespace ApiTrace

/-- A spelling that is replaced before a name is split into words. -/
structure Acronym where
  written : String
  folded : String
  deriving DecidableEq, Repr

/-- The naming conventions of a set of headers. The defaults are those of Level Zero. -/
structure Dialect where
  /-- The calling-convention marker on lines that declare a callback type. -/
  callMarker : String := "ZE_APICALL"
  /-- What callback types start with. -/
  callbackStart : String := "ze_pfn"
  /-- What callback types end with. -/
  callbackEnd : String := "Cb_t"
  /-- What functions start with. -/
  functionStart : String := "ze"
  /-- The structure that holds all callback groups. -/
  dispatchTable : String := "ze_callbacks_t"
  /-- What parameter structures end with. -/
  parameterStructEnd : String := "params_t"
  /-- The result type that callbacks receive. -/
  resultType : String := "ze_result_t"
  acronyms : List Acronym := [⟨"CL", "Cl"⟩, ⟨"IPC", "Ipc"⟩]
  /-- The text that marks the version line of a header. -/
  versionMarker : String := "version v"
  deriving DecidableEq, Repr

namespace Dialect

/-- The first character in upper case. -/
def capitalize : List Char → List Char
  | [] => []
  | c :: name => Text.upperChar c ++ name

/-- The words of a name: each starts at an ASCII capital, the first at the start. -/
def splitWords (name : List Char) : List (List Char) :=
  name.splitBy fun _ next => !next.isUpper

/-- The parameter structure of a function: its words in lower case, joined by underscores. -/
def parameterStruct (dialect : Dialect) (function : String) : String :=
  let folded := dialect.acronyms.foldl
    (fun name acronym => Text.replaceEvery acronym.written.toList acronym.folded.toList name)
    (capitalize function.toList)
  String.ofList ((splitWords folded).flatMap fun word => Text.lower word ++ ['_']) ++
    dialect.parameterStructEnd

/-- The function of a callback type: what stands between the first start and the next end. -/
def functionOfCallback? (dialect : Dialect) (token : List Char) : Option String := do
  let (_, rest) ← Text.splitOnce? dialect.callbackStart.toList token
  let (body, _) ← Text.splitOnce? dialect.callbackEnd.toList rest
  let body := Text.trim body
  if body.isEmpty then none else some (dialect.functionStart ++ String.ofList body)

/-- The callback type of a function. -/
def callbackType (dialect : Dialect) (function : String) : String :=
  let body := (Text.dropStart? dialect.functionStart.toList function.toList).getD function.toList
  dialect.callbackStart ++ String.ofList body ++ dialect.callbackEnd

end Dialect

end ApiTrace
