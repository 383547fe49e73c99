import ApiTrace.Diagnostic
import ApiTrace.Workspace.Fault

/-!
# Errors of numbering

Why numbers could not be read, assigned or confirmed. `IdError.message` is the wording of each,
`IdError.diagnostic` adds the broken assumption and the way out.
-/

namespace ApiTrace

/-- Why numbers could not be read, assigned or confirmed. -/
inductive IdError where
  | duplicateNumber (scope : String) (number : Nat) (first second : String)
  | duplicateName (scope name : String)
  | reservedNumber (scope name : String)
  | malformed (file : String) (line : Nat) (text : String)
  | missingFile (path : String)
  | unreadable (path : String) (fault : FileFault)
  | validationFailed (file : String) (errors : Nat)
  /-- A number or version beyond 32 bits would be needed. This stands for the overflow of checked
  arithmetic, which ends the run; without the checks the addition would wrap around, and that is not
  modelled. -/
  | exhausted
  deriving DecidableEq, Repr

namespace IdError

/-- The wording of an error. -/
def message : IdError → String
  | .duplicateNumber scope number first second =>
    "api id " ++ Text.showNat number ++ " is used by both `" ++ first ++ "` and `" ++ second ++
      "` in " ++ scope
  | .duplicateName scope name => "api name `" ++ name ++ "` appears twice in " ++ scope
  | .reservedNumber scope name => "`" ++ name ++ "` claims the reserved id 0 in " ++ scope
  | .malformed file line text =>
    "malformed id entry at " ++ file ++ ":" ++ Text.showNat line ++ ": `" ++ text ++ "`"
  | .missingFile path => "id file `" ++ path ++ "` does not exist"
  | .unreadable path _ => "failed to read id file `" ++ path ++ "`"
  | .validationFailed file errors =>
    Text.showNat errors ++ " validation error(s) in `" ++ file ++ "`"
  | .exhausted => "no 32-bit number is left"

/-- The stable code of an error, where it has one. -/
def code? : IdError → Option String
  | .duplicateNumber .. => some "tracegen::ids::duplicated_api_id"
  | .duplicateName .. => some "tracegen::ids::duplicated_api_name"
  | .reservedNumber .. => some "tracegen::ids::reserved_id"
  | .malformed .. => some "tracegen::ids::malformed_id_file"
  | .missingFile .. => some "tracegen::ids::missing_id_file"
  | .unreadable .. => some "tracegen::ids::io"
  | .validationFailed .. => some "tracegen::ids::validation_failed"
  | .exhausted => none

/-- The broken assumption and the way out, without the code. -/
def explain (error : IdError) (diagnostic : Diagnostic) : Diagnostic :=
  match error with
  | .duplicateNumber .. | .duplicateName .. =>
    (diagnostic.withContext
      "invariant: ids and names are pairwise distinct per category").withSuggestion
      "Restore the previous id header from version control, or fix the vendor header defaults"
  | .reservedNumber .. => diagnostic.withContext "invariant: id 0 is the `reserved_` sentinel"
  | .malformed .. => diagnostic.withSuggestion "Do not edit generated id headers by hand"
  | .missingFile path =>
    (diagnostic.withLocation path).withSuggestion
      "Run `tracegen generate --regenerate` to create it"
  | .unreadable path fault => (diagnostic.withLocation path).withContext fault.message
  | .validationFailed .. =>
    diagnostic.withSuggestion "Fix the id header, or drop --strict to accept id mismatches"
  | .exhausted => diagnostic

/-- The diagnostic of an error. -/
def diagnostic (error : IdError) : Diagnostic :=
  let explained := error.explain (.error error.message)
  match error.code? with
  | some code => explained.withContext ("code: " ++ code)
  | none => explained

end IdError

end ApiTrace
