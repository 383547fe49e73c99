import ApiTrace.Diagnostic
import ApiTrace.Workspace.Fault

/-!
# Errors of reading headers

Every error means that a header does not have the shape that the dialect promises. None of them is
recoverable, because tables read from part of a header would be wrong. `ScanError.message` is the
wording of each, `ScanError.diagnostic` adds the broken assumption and the way out.
-/

namespace ApiTrace

/-- What was expected where something else stands. -/
inductive Expectation where
  | singleCallback
  | callbackType
  | structField
  | typeAndName
  | pointerName
  | pointerType
  | enumTypedef
  | singleMember
  | memberAssignment
  | memberName
  | callbackField
  | freshParameter
  | functionNumber
  | functionName
  deriving DecidableEq, Repr

/-- The wording of an expectation. -/
def Expectation.text : Expectation → String
  | .singleCallback => "exactly one callback type per line"
  | .callbackType => "callback type with prefix and suffix"
  | .structField => "`type field;`"
  | .typeAndName => "at least a type and a name"
  | .pointerName => "name starting with `p`"
  | .pointerType => "pointer type ending in `*`"
  | .enumTypedef => "`typedef enum _name \x7b`"
  | .singleMember => "one enum member per line"
  | .memberAssignment => "`NAME = VALUE`"
  | .memberName => "enum member identifier"
  | .callbackField => "callback pointer field"
  | .freshParameter => "duplicate parameter"
  | .functionNumber => "numeric function id"
  | .functionName => "function name after the enumerator marker"

/-- How preprocessor conditionals of a body are out of balance. -/
inductive ConditionalFault where
  | nested
  | withoutExpression
  | strayElse
  | elif
  | strayEnd
  | unterminated
  deriving DecidableEq, Repr

/-- The wording of a conditional's fault. -/
def ConditionalFault.text : ConditionalFault → String
  | .nested => "nested conditional"
  | .withoutExpression => "conditional without expression"
  | .strayElse => "`#else` without `#if`"
  | .elif => "`#elif` is not supported"
  | .strayEnd => "`#endif` without `#if`"
  | .unterminated => "unterminated conditional"

/-- Why a header could not be read as the dialect promises. -/
inductive ScanError where
  | unreadable (path : String) (fault : FileFault)
  | structureNotFound (file name : String)
  | unbalancedBrace (file name : String) (line : Nat) (expected : Char)
  | unbalancedConditional (file : String) (line : Nat) (text : String) (fault : ConditionalFault)
  | unrecognized (file : String) (line : Nat) (text : String) (expected : Expectation)
  | parameter (file function : String) (line : Nat) (text : String) (expected : Expectation)
  | withoutSlot (function table : String)
  | severalSlots (function first second : String)
  | duplicateEnum (name first second : String)
  | duplicateMember (name member file : String) (line : Nat)
  | emptyStructure (file name : String)
  deriving DecidableEq, Repr

namespace ScanError

/-- A word between backquotes. -/
def quote (word : String) : String := "`" ++ word ++ "`"

/-- A file with a line number. -/
def position (file : String) (line : Nat) : String := file ++ ":" ++ Text.showNat line

/-- The wording of an error. -/
def message : ScanError → String
  | .unreadable path _ => "failed to read header " ++ quote path
  | .structureNotFound file name => "structure " ++ quote name ++ " not found in " ++ quote file
  | .unbalancedBrace file name line expected =>
    "no " ++ quote (String.singleton expected) ++ " found for " ++ quote name ++ " after " ++
      position file line
  | .unbalancedConditional file line text fault =>
    fault.text ++ " at " ++ position file line ++ ": " ++ quote text
  | .unrecognized file line text expected =>
    "unrecognized declaration at " ++ position file line ++ ": " ++ quote text ++
      " (expected " ++ expected.text ++ ")"
  | .parameter file function line text expected =>
    "cannot parse parameter of " ++ quote function ++ " at " ++ position file line ++ ": " ++
      quote text ++ " (" ++ expected.text ++ ")"
  | .withoutSlot function table =>
    "function " ++ quote function ++ " has no callback group in " ++ quote table
  | .severalSlots function first second =>
    "function " ++ quote function ++ " appears in callback groups " ++ quote first ++ " and " ++
      quote second
  | .duplicateEnum name first second =>
    "enum " ++ quote name ++ " is defined in both " ++ quote first ++ " and " ++ quote second
  | .duplicateMember name member file line =>
    "enum " ++ quote name ++ " declares " ++ quote member ++ " twice (" ++ position file line ++ ")"
  | .emptyStructure file name => quote name ++ " in " ++ quote file ++ " has no members"

/-- The stable code of an error. -/
def code : ScanError → String
  | .unreadable .. => "tracegen::scan::io"
  | .structureNotFound .. => "tracegen::scan::structure_not_found"
  | .unbalancedBrace .. => "tracegen::scan::unbalanced_brace"
  | .unbalancedConditional .. => "tracegen::scan::unbalanced_conditional"
  | .unrecognized .. => "tracegen::scan::unrecognized_declaration"
  | .parameter .. => "tracegen::scan::parameter_parse"
  | .withoutSlot .. => "tracegen::scan::group_mapping"
  | .severalSlots .. => "tracegen::scan::duplicate_group_entry"
  | .duplicateEnum .. => "tracegen::scan::duplicate_enum"
  | .duplicateMember .. => "tracegen::scan::duplicate_enum_member"
  | .emptyStructure .. => "tracegen::scan::empty_structure"

/-- The broken assumption and the way out, without the code. -/
def explain (error : ScanError) (diagnostic : Diagnostic) : Diagnostic :=
  match error with
  | .unreadable path fault =>
    ((diagnostic.withLocation path).withContext fault.message).withSuggestion
      "Check the --include-dir and the category header list"
  | .structureNotFound .. | .unbalancedBrace .. =>
    (diagnostic.withContext
      "invariant: every referenced type has a `\x7b ... \x7d` body").withSuggestion
      "Check that the vendor header version matches the dialect"
  | .unbalancedConditional .. =>
    diagnostic.withContext "invariant: one flat `#if/#else/#endif` level inside struct bodies"
  | .unrecognized .. | .parameter .. =>
    diagnostic.withContext "invariant: one declaration per line"
  | .withoutSlot function _ =>
    (diagnostic.withContext
      ("invariant: " ++ quote function ++
        " must have exactly one dispatch-table slot")).withSuggestion
        "Pass --allow-partial to register it per function"
  | .severalSlots .. =>
    diagnostic.withContext "invariant: one dispatch-table slot per function"
  | .duplicateEnum .. | .duplicateMember .. =>
    diagnostic.withContext "invariant: enum and member names are unique"
  | .emptyStructure .. => diagnostic

/-- The diagnostic of an error. -/
def diagnostic (error : ScanError) : Diagnostic :=
  (error.explain (.error error.message)).withContext ("code: " ++ error.code)

end ScanError

end ApiTrace
