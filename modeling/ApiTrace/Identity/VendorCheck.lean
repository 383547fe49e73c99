import ApiTrace.Identity.Entry
import ApiTrace.Identity.IdMap

/-!
# Check against a vendor

Shipped numbers are compared with the numbers that a vendor publishes. A function that was never
shipped is worth a warning; another number is an error, unless the vendor's number belongs to a name
that continues the function's; and if the vendor's number belongs to any other name, the vendor
renumbered a shipped function, which is fatal.
-/

namespace ApiTrace

/-- How serious a finding is. -/
inductive FindingLevel where
  | warning
  | error
  | fatal
  deriving DecidableEq, Repr

/-- A difference between the shipped and the vendor's numbers. -/
structure Finding where
  level : FindingLevel
  function : String
  vendorNumber : Nat
  message : String
  deriving DecidableEq, Repr

/-- The name of a level in reports. -/
def FindingLevel.label : FindingLevel → String
  | .warning => "WARNING"
  | .error => "ERROR"
  | .fatal => "FATAL"

/-- The text of a finding. -/
def Finding.render (finding : Finding) : String :=
  "[" ++ finding.level.label ++ "] " ++ finding.message

/-- The findings about one published number. -/
def findingsOf (map : IdMap) (name : String) (number : Nat) : List Finding :=
  let about := "vendor id " ++ Text.showNat number ++ " for " ++ name
  match map.find? name with
  | none => [⟨.warning, name, number, about ++ " not found in the id header"⟩]
  | some shipped =>
    let owner := map.owner? number
    let continues := match owner with
      | some owner => name.toList.isPrefixOf owner.toList
      | none => false
    if shipped = number || continues then []
    else
      let mismatched : Finding := ⟨.error, name, number,
        about ++ " does not match the shipped id " ++ Text.showNat shipped⟩
      match owner with
      | none => [mismatched]
      | some owner => [mismatched, ⟨.fatal, name, number,
          about ++ " has changed: the id header gives it to " ++ owner⟩]

/-- The findings about all published numbers, in their order. -/
def checkAgainstVendor (map : IdMap) (vendor : List Entry) : List Finding :=
  vendor.flatMap fun entry =>
    match entry.declared with
    | none => []
    | some number => findingsOf map entry.name number

end ApiTrace
