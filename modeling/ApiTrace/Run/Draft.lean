import ApiTrace.Digest
import ApiTrace.Generated.IdHeader
import ApiTrace.Generated.LookupTable
import ApiTrace.Generated.Shim
import ApiTrace.Run.Output
import ApiTrace.Run.Scan
import ApiTrace.Workspace.Staging

/-!
# Drafts

A draft holds every file of a generating run as text, before anything is written. Making it only
reads the workspace, so an error up to here leaves all files as they were.
-/

namespace ApiTrace

/-- A category with everything that was read for it. -/
structure ScannedCategory where
  category : Category
  /-- Its functions, those of the headers first. -/
  entries : List Entry
  /-- The symbols, if it is traced through callbacks. -/
  table : Option SymbolTable
  banner : Banner

/-- A scanned category with its numbers. -/
structure NumberedCategory where
  scanned : ScannedCategory
  idFile : Path
  assignment : Assignment

/-- Everything a run is going to write. -/
structure Draft where
  categories : List CategoryReport
  files : List StagedFile

/-- Refuse configurations that cannot be generated from. -/
def checkCategories (configuration : Configuration) : Except RunError Unit :=
  let traced := configuration.categories.countP CategorySource.isTraced
  if configuration.categories.isEmpty then .error .noCategory
  else if traced > 1 then .error (.severalTraced traced)
  else .ok ()

/-- The hooks of the hook source. -/
def loadHooks (naming : Naming) (options : GenerateOptions) (workspace : Workspace) :
    Journalled RunError HookSet :=
  match options.hooks with
  | none => return .empty
  | some path => do
    let text ← (workspace.fileText path).mapError RunError.access
    let hooks := HookSet.ofSource text [naming.enterHookStart, naming.exitHookStart]
    .write .debug (Text.showNat hooks.names.length ++ " hooks in " ++ path.text)
    return hooks

/-- The functions that the headers of a category declare, and the symbols if it is traced. -/
def readEntries (configuration : Configuration) (options : GenerateOptions)
    (source : CategorySource) (headers : List Header) (workspace : Workspace) :
    Journalled RunError (List Entry × Option SymbolTable) :=
  match source.functions with
  | .callbacks => do
    let table ← readSymbols workspace configuration options.allowPartial headers
      (source.directory options.includeDirectory)
    return (table.functionNames.map fun name => ⟨name, none⟩, some table)
  | .vendorNumbers spec =>
    match headers with
    | [] => .fail (.noHeaders source.category)
    | header :: _ => do
      let entries ← (header.vendorNumbers spec).mapError RunError.scan
      return (entries, none)

/-- The extra functions that no header declares. -/
def missingExtras (source : CategorySource) (entries : List Entry) : List String :=
  source.extraFunctions.filter fun extra => !entries.any fun entry => entry.name = extra

/-- Where the functions of a category come from, as its id header says. -/
def bannerOf (dialect : Dialect) (source : CategorySource) (headers : List Header) : Banner where
  apiFile := source.headers.head?.getD ""
  apiVersion := headers.head?.bind fun header => header.versionLine? dialect.versionMarker
  digest := some (Digest.ofLines (headers.flatMap fun header => header.lines.map String.ofList))

/-- Read everything for one category. -/
def scanCategory (configuration : Configuration) (options : GenerateOptions)
    (workspace : Workspace) (source : CategorySource) : Journalled RunError ScannedCategory := do
  if source.headers.isEmpty then
    .fail (.noHeaders source.category)
  else
    let directory := source.directory options.includeDirectory
    let paths := source.headers.map fun name => directory.join ⟨name⟩
    let headers ← (paths.mapM workspace.openHeader).mapError RunError.scan
    let (entries, table) ← readEntries configuration options source headers workspace
    let extras := missingExtras source entries
    .writeAll (extras.map fun extra =>
      ⟨.debug, source.category.label ++ ": adding extra function " ++ extra⟩)
    return {
      category := source.category
      entries := entries ++ extras.map fun name => ⟨name, none⟩
      table := table
      banner := bannerOf configuration.dialect source headers }

/-- The numbers of a category: assigned anew after the shipped ones, or the shipped ones as they
are. -/
def numbersOf (options : GenerateOptions) (workspace : Workspace) (scanned : ScannedCategory)
    (idFile : Path) : Journalled IdError Assignment := do
  if options.regenerate then
    let shipped ← workspace.loadIds idFile
    assign scanned.category scanned.entries (shipped.getD ∅)
  else
    return .ofMap scanned.category (← workspace.needIds idFile)

/-- Number a scanned category. -/
def numberCategory (naming : Naming) (options : GenerateOptions) (workspace : Workspace)
    (scanned : ScannedCategory) : Journalled RunError NumberedCategory := do
  let idFile := options.idHeader naming scanned.category
  let assignment ← (numbersOf options workspace scanned idFile).mapError RunError.ids
  .write .info
    (scanned.category.label ++ ": " ++ Text.showNat scanned.entries.length ++ " functions, " ++
      Text.showNat assignment.records.length ++ " ids")
  return ⟨scanned, idFile, assignment⟩

/-- The enumeration of a requested converter. -/
def resolveConverter (table : SymbolTable) (request : ConverterRequest) :
    Except RunError (Enumeration × String) :=
  match table.enums.find? request.enumName with
  | some collected => .ok (collected.enumeration, request.function)
  | none => .error (.unknownEnum request.enumName request.function)

/-- The tracing source, if a category is traced. -/
def tracingFiles (configuration : Configuration) (options : GenerateOptions) (hooks : HookSet)
    (categories : List NumberedCategory) : Except RunError (List StagedFile) :=
  match categories.findSome? fun numbered => numbered.scanned.table with
  | none => .ok []
  | some table => do
    let converters ← configuration.converters.mapM (resolveConverter table)
    return [⟨options.tracing, renderTracing table hooks converters
      configuration.dialect.functionStart configuration.naming⟩]

/-- The id headers, if numbers are assigned anew. -/
def idHeaderFiles (naming : Naming) (options : GenerateOptions)
    (categories : List NumberedCategory) : List StagedFile :=
  if options.regenerate then
    categories.map fun numbered =>
      ⟨numbered.idFile, renderIdHeader numbered.assignment numbered.scanned.banner naming⟩
  else []

/-- The tables of names and of states. -/
def tableFiles (naming : Naming) (options : GenerateOptions)
    (categories : List NumberedCategory) : List StagedFile :=
  let nameTables := categories.map fun numbered => renderNameTable numbered.assignment naming
  let stateTables := categories.map fun numbered => renderStateTable numbered.assignment naming
  [⟨options.nameTables, generatedMark ++ "\n" ++ String.join nameTables⟩,
    ⟨options.stateMaps, renderStateMaps stateTables⟩]

/-- The lookups of the test suite, if numbers are assigned anew. -/
def lookupFiles (options : GenerateOptions) (categories : List NumberedCategory) :
    List StagedFile :=
  if options.regenerate then
    [⟨options.lookupChecks,
      String.join (categories.map fun numbered => renderLookupChecks numbered.assignment)⟩]
  else []

/-- What is reported about a category. -/
def NumberedCategory.report (numbered : NumberedCategory) : CategoryReport :=
  let current := numbered.assignment.records.countP fun record => record.origin = .current
  { category := numbered.scanned.category
    idFile := numbered.idFile
    functions := numbered.scanned.entries.length
    current := current
    residual := numbered.assignment.records.length - current
    uncovered := (numbered.scanned.table.map SymbolTable.uncovered).getD []
    events := numbered.assignment.events }

/-- Read the workspace and make all files of a run. -/
def makeDraft (configuration : Configuration) (options : GenerateOptions)
    (workspace : Workspace) : Journalled RunError Draft := do
  checkCategories configuration
  let hooks ← loadHooks configuration.naming options workspace
  let scanned ← configuration.categories.mapM (scanCategory configuration options workspace)
  let categories ← scanned.mapM (numberCategory configuration.naming options workspace)
  let tracing ← tracingFiles configuration options hooks categories
  return {
    categories := categories.map NumberedCategory.report
    files := idHeaderFiles configuration.naming options categories ++ tracing ++
      tableFiles configuration.naming options categories ++ lookupFiles options categories }

end ApiTrace
