import ApiTrace.Generated.Naming
import ApiTrace.Identity.Numbering
import ApiTrace.Json
import ApiTrace.Workspace.Path

/-!
# Outputs of a run

Where a generating run puts its files, and its report on what it did.
-/

namespace ApiTrace

/-- What to generate and where. -/
structure GenerateOptions where
  /-- The directory of the headers, unless a category has its own. -/
  includeDirectory : Path
  outDirectory : Path
  /-- The directory of the id headers, unless it is the output directory. -/
  idDirectory : Option Path := none
  /-- The hook source. -/
  hooks : Option Path := none
  /-- Whether numbers are assigned anew and the id headers replaced. -/
  regenerate : Bool := false
  /-- Where to write the report. -/
  report : Option Path := none
  allowPartial : Bool := false
  deriving DecidableEq, Repr

namespace GenerateOptions

/-- A file of the output directory. -/
def output (options : GenerateOptions) (name : String) : Path :=
  options.outDirectory.join ⟨name⟩

/-- The converters, the shims and the registration routine. -/
def tracing (options : GenerateOptions) : Path :=
  options.output "tracing.gen"

/-- The tables of function names. -/
def nameTables (options : GenerateOptions) : Path :=
  options.output "tracing_cb_api.gen"

/-- The tables of states. -/
def stateMaps (options : GenerateOptions) : Path :=
  options.output "pti_api_ids_state_maps.h"

/-- The lookups of a test suite. -/
def lookupChecks (options : GenerateOptions) : Path :=
  options.output "tracing_base_apiid_validation_file.gen"

/-- The id header of a category. -/
def idHeader (options : GenerateOptions) (naming : Naming) (category : Category) : Path :=
  (options.idDirectory.getD options.outDirectory).join
    ⟨naming.idStart ++ "_" ++ category.key ++ "_api_ids.h"⟩

end GenerateOptions

/-- What a run did for one category. -/
structure CategoryReport where
  category : Category
  idFile : Path
  /-- How many functions it has. -/
  functions : Nat
  current : Nat
  residual : Nat
  /-- Functions that are registered one by one. -/
  uncovered : List String
  events : List Event
  deriving DecidableEq, Repr

/-- A written file with the digest of its text. -/
structure WrittenFile where
  path : Path
  digest : String
  deriving DecidableEq, Repr

/-- What a run did. -/
structure GenerateReport where
  regenerated : Bool
  categories : List CategoryReport
  files : List WrittenFile
  /-- The outdated lookups that were removed. -/
  removed : Option Path
  deriving DecidableEq, Repr

/-- A category as JSON. -/
def Category.toJson (category : Category) : Json :=
  .record [("domain", .text category.domain), ("subdomain", .text category.subdomain)]

/-- An event as JSON. -/
def Event.toJson : Event → Json
  | .reversioned function retained retainedNumber minted mintedNumber =>
    .record [
      ("kind", .text "reversioned"),
      ("function", .text function),
      ("retained", .text retained),
      ("retained_id", .nat retainedNumber),
      ("minted", .text minted),
      ("minted_id", .nat mintedNumber)]
  | .recycled evicted number claimant reassigned reassignedNumber =>
    .record [
      ("kind", .text "recycled"),
      ("evicted", .text evicted),
      ("id", .nat number),
      ("claimant", .text claimant),
      ("reassigned", .text reassigned),
      ("reassigned_id", .nat reassignedNumber)]

/-- What was done for a category, as JSON. -/
def CategoryReport.toJson (report : CategoryReport) : Json :=
  .record [
    ("category", report.category.toJson),
    ("id_file", .text report.idFile.text),
    ("functions", .nat report.functions),
    ("current", .nat report.current),
    ("residual", .nat report.residual),
    ("uncovered", .texts report.uncovered),
    ("events", .list (report.events.map Event.toJson))]

/-- A written file as JSON. -/
def WrittenFile.toJson (file : WrittenFile) : Json :=
  .record [("path", .text file.path.text), ("sha256", .text file.digest)]

/-- A report as JSON. -/
def GenerateReport.toJson (report : GenerateReport) : Json :=
  .record [
    ("regenerated", .boolean report.regenerated),
    ("categories", .list (report.categories.map CategoryReport.toJson)),
    ("files", .list (report.files.map WrittenFile.toJson)),
    ("removed", .optional (report.removed.map Path.text))]

end ApiTrace
