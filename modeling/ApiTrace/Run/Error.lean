import ApiTrace.Header.Error
import ApiTrace.Identity.Category
import ApiTrace.Identity.Error
import ApiTrace.Workspace.Access

/-!
# Errors of a run

Everything that can stop a run: what was found in headers and id files, file accesses that failed,
and configurations that make no sense. `RunError.message` is the wording of each,
`RunError.diagnostic` what a person is shown.
-/

namespace ApiTrace

/-- What stops a run. -/
inductive RunError where
  | scan (error : ScanError)
  | ids (error : IdError)
  | access (error : AccessError)
  /-- The text of a configuration file describes no configuration. -/
  | malformedConfiguration (path : Path) (reason : String)
  | noCategory
  /-- More than one category is traced through callbacks. -/
  | severalTraced (count : Nat)
  | noHeaders (category : Category)
  /-- The enumeration of a requested converter is in no header. -/
  | unknownEnum (enumName function : String)
  | nothingToScan
  deriving DecidableEq, Repr

namespace RunError

/-- The wording of an error. -/
def message : RunError → String
  | .scan error => error.message
  | .ids error => error.message
  | .access error => error.message
  | .malformedConfiguration path _ => "failed to parse config file: " ++ path.text
  | .noCategory =>
    "no category configured\nhelp: Add a [[category]] table to tracegen.toml or drop --config " ++
      "to use the defaults"
  | .severalTraced count =>
    Text.showNat count ++
      " categories use callback tracing, at most one can own the registration routine"
  | .noHeaders category => "category " ++ category.label ++ " lists no headers"
  | .unknownEnum enumName function =>
    "enum `" ++ enumName ++ "` for converter `" ++ function ++
      "` was not found in the scanned headers\nhelp: Check the [[converter]] entries " ++
      "against the enums of the include directory"
  | .nothingToScan => "no headers given and no traced category configured"

/-- The reasons behind an error, from the outer to the inner one. -/
def causes : RunError → List String
  | .access error => error.causes
  | .malformedConfiguration _ reason => [reason]
  | _ => []

/-- What a person is shown. -/
def diagnostic : RunError → Diagnostic
  | .scan error => error.diagnostic
  | .ids error => error.diagnostic
  | error => .error (String.intercalate ": " (error.message :: error.causes))

end RunError

instance : Coe ScanError RunError := ⟨.scan⟩

instance : Coe IdError RunError := ⟨.ids⟩

instance : Coe AccessError RunError := ⟨.access⟩

end ApiTrace
