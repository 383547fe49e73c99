import ApiTrace.Header.VendorNumbers
import ApiTrace.Identity.VendorCheck
import ApiTrace.Json
import ApiTrace.Run.Source

/-!
# Validating

Shipped numbers are validated against a vendor header. Fatal findings always fail the validation;
errors do so only when it is strict.
-/

namespace ApiTrace

/-- What to validate. -/
structure ValidateOptions where
  /-- The shipped numbers. -/
  idFile : Path
  /-- The header in which the vendor numbers its functions. -/
  vendorHeader : Path
  numberEnum : NumberEnum := {}
  /-- Whether errors fail the validation. -/
  strict : Bool := false
  deriving DecidableEq, Repr

/-- What a validation found. -/
structure ValidateReport where
  idFile : Path
  /-- How many published numbers were compared. -/
  checked : Nat
  strict : Bool
  findings : List Finding
  deriving DecidableEq, Repr

namespace ValidateReport

/-- The number of findings of a level. -/
def count (report : ValidateReport) (level : FindingLevel) : Nat :=
  report.findings.countP fun finding => finding.level = level

/-- The number of findings that fail the validation. -/
def failures (report : ValidateReport) : Nat :=
  report.count .fatal + if report.strict then report.count .error else 0

/-- The error of a validation that failed. -/
def check (report : ValidateReport) : Except IdError Unit :=
  if report.failures = 0 then .ok ()
  else .error (.validationFailed report.idFile.text report.failures)

/-- One line about the whole report. -/
def summary (report : ValidateReport) : String :=
  report.idFile.text ++ ": " ++ Text.showNat report.checked ++ " vendor ids checked, " ++
    Text.showNat (report.count .warning) ++ " warnings, " ++
    Text.showNat (report.count .error) ++ " errors"

end ValidateReport

/-- The weight of a finding in the journal. -/
def FindingLevel.journalLevel : FindingLevel → Level
  | .warning => .warning
  | .error => .error
  | .fatal => .error

/-- The name of a level in JSON. -/
def FindingLevel.key : FindingLevel → String
  | .warning => "warning"
  | .error => "error"
  | .fatal => "fatal"

/-- Compare shipped with published numbers. -/
def validate (options : ValidateOptions) (workspace : Workspace) :
    Journalled RunError ValidateReport := do
  let map ← (workspace.needIds options.idFile).mapError RunError.ids
  let header ← (workspace.openHeader options.vendorHeader).mapError RunError.scan
  let vendor ← (header.vendorNumbers options.numberEnum).mapError RunError.scan
  let report : ValidateReport :=
    ⟨options.idFile, vendor.length, options.strict, checkAgainstVendor map vendor⟩
  .writeAll (report.findings.map fun finding => ⟨finding.level.journalLevel, finding.render⟩)
  .write .info report.summary
  return report

/-- A finding as JSON. -/
def Finding.toJson (finding : Finding) : Json :=
  .record [
    ("level", .text finding.level.key),
    ("function", .text finding.function),
    ("vendor_id", .nat finding.vendorNumber),
    ("message", .text finding.message)]

/-- A report as JSON. -/
def ValidateReport.toJson (report : ValidateReport) : Json :=
  .record [
    ("id_file", .text report.idFile.text),
    ("checked", .nat report.checked),
    ("strict", .boolean report.strict),
    ("findings", .list (report.findings.map Finding.toJson))]

end ApiTrace
