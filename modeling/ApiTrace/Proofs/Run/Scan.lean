import ApiTrace.Proofs.Run.Contract

/-!
# What a scan shows

A scan reads the same symbols as a generating run if it reads the headers of the traced category
where the run does. The tracing source can then be told from the scan alone: it is the rendering of
the functions, slots and uncovered functions that the scan lists. A scan knows nothing of the
directory of a category, though, and shows other functions if the traced category has one of its
own.
-/

namespace ApiTrace

open Workspace

/-! ## The symbols of a category -/

/-- The symbols of headers in a directory. -/
def symbolsIn (configuration : Configuration) (allowPartial : Bool) (names : List String)
    (directory : Path) (workspace : Workspace) : Journalled RunError SymbolTable := do
  let paths := names.map fun name => directory.join ⟨name⟩
  let headers ← (paths.mapM workspace.openHeader).mapError RunError.scan
  readSymbols workspace configuration allowPartial headers directory

section Symbols

variable {configuration : Configuration} {options : GenerateOptions} {workspace : Workspace}
  {source : CategorySource}

/-- A scan without headers of its own shows the symbols of the traced category, as far as they are
in the directory of the scan. -/
theorem exists_symbols_of_scan {scanOptions : ScanOptions} {shown : ScanReport}
    (ownHeaders : scanOptions.headers = [])
    (ended : (scan configuration scanOptions workspace).outcome = .ok shown) :
    ∃ source table, configuration.categories.find? CategorySource.isTraced = some source ∧
      (symbolsIn configuration scanOptions.allowPartial source.headers scanOptions.includeDirectory
        workspace).outcome = .ok table ∧
      shown = describeSymbols configuration.dialect source.headers table := by
  unfold scan at ended
  rw [if_pos (by rw [ownHeaders]; rfl)] at ended
  obtain ⟨names, named, ended⟩ := Journalled.liftM_bind_eq_ok ended
  obtain ⟨headers, opened, ended⟩ := Journalled.bind_eq_ok ended
  obtain ⟨table, read, ended⟩ := Journalled.bind_eq_ok ended
  cases ended
  unfold tracedHeaders at named
  split at named
  · rename_i source traced
    cases named
    refine ⟨source, table, traced, ?_, rfl⟩
    rw [symbolsIn, Journalled.outcome_bind, opened]
    exact read
  · contradiction

/-- A traced category has the symbols of its headers, another one has none. -/
theorem table_of_scanCategory {scanned : ScannedCategory}
    (ended : (scanCategory configuration options workspace source).outcome = .ok scanned) :
    if source.isTraced then ∃ table, scanned.table = some table ∧
      (symbolsIn configuration options.allowPartial source.headers
        (source.directory options.includeDirectory) workspace).outcome = .ok table
    else scanned.table = none := by
  obtain ⟨headers, entries, table, opened, read, rfl⟩ := exists_read_of_scanCategory ended
  unfold readEntries at read
  split at read
  · rename_i traced
    obtain ⟨symbols, symbolsRead, read⟩ := Journalled.bind_eq_ok read
    cases read
    rw [if_pos (by rw [CategorySource.isTraced, traced]; rfl)]
    refine ⟨symbols, rfl, ?_⟩
    rw [symbolsIn, Journalled.outcome_bind, Journalled.outcome_liftM, opened]
    exact symbolsRead
  · rename_i spec untraced
    rw [if_neg (by rw [CategorySource.isTraced, untraced]; exact Bool.false_ne_true)]
    split at read
    · contradiction
    · obtain ⟨_, _, read⟩ := Journalled.bind_eq_ok read
      cases read
      rfl

/-- The symbols of a run are those of the first traced category. -/
theorem exists_table_of_traced {sources : List CategorySource} {numbered : List NumberedCategory}
    (scanned : List.Forall₂ (fun source (item : NumberedCategory) =>
      (scanCategory configuration options workspace source).outcome = .ok item.scanned)
      sources numbered)
    (traced : sources.find? CategorySource.isTraced = some source) :
    ∃ item ∈ numbered, ∃ table, item.scanned.category = source.category ∧
      item.scanned.table = some table ∧
      (symbolsIn configuration options.allowPartial source.headers
        (source.directory options.includeDirectory) workspace).outcome = .ok table ∧
      numbered.findSome? (fun numbered => numbered.scanned.table) = some table := by
  induction scanned with
  | nil => contradiction
  | @cons head item sources numbered headScanned _ ih =>
      have symbols := table_of_scanCategory headScanned
      cases isTraced : head.isTraced with
      | true =>
          rw [List.find?_cons_of_pos isTraced] at traced
          cases traced
          rw [if_pos isTraced] at symbols
          obtain ⟨table, has, read⟩ := symbols
          refine ⟨item, List.mem_cons_self, table, (exists_digest_of_scanCategory headScanned).1,
            has, read, ?_⟩
          rw [List.findSome?_cons, has]
      | false =>
          rw [List.find?_cons_of_neg (by rw [isTraced]; exact Bool.false_ne_true)] at traced
          rw [if_neg (by rw [isTraced]; exact Bool.false_ne_true)] at symbols
          obtain ⟨other, member, table, category, has, read, first⟩ := ih traced
          refine ⟨other, List.mem_cons_of_mem item member, table, category, has, read, ?_⟩
          rw [List.findSome?_cons, symbols]
          exact first

end Symbols

/-! ## What a scan tells of the tracing source -/

/-- The slots that a scan shows. -/
def shownSlots : List ScannedFunction → NameMap Slot
  | [] => ∅
  | scanned :: functions =>
    match scanned.slot with
    | some slot => (shownSlots functions).insert scanned.function.name slot
    | none => shownSlots functions

/-- The symbols that a scan shows, without the enumerations, of which it only shows the sizes. -/
def ScanReport.symbols (shown : ScanReport) : SymbolTable where
  functions := shown.functions.map ScannedFunction.function
  slots := shownSlots shown.functions
  enums := ∅
  uncovered := shown.uncovered
  apiVersion := shown.apiVersion

/-- Symbols as far as a tracing source depends on them. -/
structure SymbolTable.SameShims (first second : SymbolTable) : Prop where
  functions : first.functions = second.functions
  slots : ∀ function ∈ second.functions,
    first.slots.find? function.name = second.slots.find? function.name
  uncovered : first.uncovered = second.uncovered

theorem SymbolTable.SameShims.renderTracing {first second : SymbolTable}
    (same : first.SameShims second) (hooks : HookSet) (converters : List (Enumeration × String))
    (functionStart : String) (naming : Naming) :
    renderTracing first hooks converters functionStart naming =
      renderTracing second hooks converters functionStart naming := by
  have shims : renderShims first hooks functionStart naming =
      renderShims second hooks functionStart naming := by
    rw [renderShims, renderShims, same.functions]
    congr 1
    refine List.map_congr_left fun function member => ?_
    unfold renderFunctionShims guardOf
    rw [same.slots function member]
  have mapped : first.mapped = second.mapped := by
    rw [SymbolTable.mapped, SymbolTable.mapped, same.functions]
    refine List.filterMap_congr fun function member => ?_
    rw [same.slots function member]
  have named : first.function? = second.function? := by
    funext name
    rw [function?, function?, same.functions]
  have registration : renderRegistration first functionStart naming =
      renderRegistration second functionStart naming := by
    unfold renderRegistration
    rw [same.functions, mapped, same.uncovered, named]
  unfold ApiTrace.renderTracing
  rw [shims, registration]

theorem find?_shownSlots (dialect : Dialect) (slots : NameMap Slot) (functions : List Function)
    (name : String) :
    (shownSlots (functions.map fun function =>
        ⟨function, dialect.callbackType function.name, slots.find? function.name⟩)).find? name =
      if name ∈ functions.map Function.name then slots.find? name else none := by
  induction functions with
  | nil => rfl
  | cons function functions ih =>
      rw [List.map_cons, List.map_cons, shownSlots]
      cases slot : slots.find? function.name with
      | none =>
          dsimp only
          rw [ih]
          by_cases here : name = function.name
          · simp [here, slot]
          · simp [here]
      | some slot =>
          dsimp only
          rw [NameMap.find?_insert, ih]
          by_cases here : name = function.name
          · simp [here, slot]
          · simp [here]

/-- What a scan shows of some symbols tells what a tracing source depends on. -/
theorem sameShims_describeSymbols (dialect : Dialect) (names : List String) (table : SymbolTable) :
    (describeSymbols dialect names table).symbols.SameShims table where
  functions := by
    rw [ScanReport.symbols, describeSymbols, List.map_map]
    exact List.map_id table.functions
  slots function member := by
    rw [ScanReport.symbols, describeSymbols, find?_shownSlots, if_pos (List.mem_map_of_mem member)]
  uncovered := rfl

/-! ## A scan beside a run -/

section Run

variable {configuration : Configuration} {options : GenerateOptions} {before after : Workspace}
  {report : GenerateReport} {source : CategorySource}

/-- The tracing source among the files of a run. -/
theorem exists_tracing_of_prepare
    (traced : configuration.categories.find? CategorySource.isTraced = some source)
    {staged : Workspace} {files : List StagedFile}
    (prepared : (prepare configuration options).run before = (staged, .ok (files, report))) :
    ∃ hooks converters table numbered,
      (loadHooks configuration.naming options before).outcome = .ok hooks ∧
      (symbolsIn configuration options.allowPartial source.headers
        (source.directory options.includeDirectory) before).outcome = .ok table ∧
      files = idHeaderFiles configuration.naming options numbered ++
        ⟨options.tracing, renderTracing table hooks converters configuration.dialect.functionStart
          configuration.naming⟩ ::
        (tableFiles configuration.naming options numbered ++ lookupFiles options numbered ++
          reportFiles options report) ∧
      ∃ category ∈ report.categories, category.category = source.category ∧
        category.uncovered = table.uncovered := by
  obtain ⟨draft, _, drafted, _, reportEq, _, rfl⟩ := exists_draft_of_prepare prepared
  obtain ⟨hooks, numbered, tracing, hooked, numberedEq, tracingEq, rfl⟩ :=
    exists_parts_of_makeDraft drafted
  have scannedAll : List.Forall₂ (fun source (item : NumberedCategory) =>
      (scanCategory configuration options before source).outcome = .ok item.scanned)
      configuration.categories numbered := by
    refine forall₂_of_numberCategories ?_ numberedEq
    intro source scanned numbered scan numbering
    rw [(numbersOf_of_numberCategory numbering).1]
    exact scan
  obtain ⟨item, member, table, category, has, read, first⟩ :=
    exists_table_of_traced scannedAll traced
  rw [tracingFiles, first] at tracingEq
  obtain ⟨converters, _, tracingEq⟩ := bind_eq_ok tracingEq
  cases tracingEq
  refine ⟨hooks, converters, table, numbered, hooked, read, ?_, item.report, ?_, category, ?_⟩
  · simp only [List.append_assoc, List.cons_append, List.nil_append]
  · rw [reportEq]
    exact List.mem_map_of_mem member
  · rw [NumberedCategory.report, has]
    rfl

/-- The tracing source that a run leaves: the rendering of the symbols of the traced category. -/
theorem exists_tracing_of_generate
    (traced : configuration.categories.find? CategorySource.isTraced = some source)
    (ended : (generate configuration options).run before = (after, .ok report))
    (apart : ∀ path ∈ options.report, before.place path ≠ before.place options.tracing) :
    ∃ hooks converters table, (loadHooks configuration.naming options before).outcome = .ok hooks ∧
      (symbolsIn configuration options.allowPartial source.headers
        (source.directory options.includeDirectory) before).outcome = .ok table ∧
      after.readText options.tracing = .ok (renderTracing table hooks converters
        configuration.dialect.functionStart configuration.naming) ∧
      ∃ category ∈ report.categories, category.category = source.category ∧
        category.uncovered = table.uncovered := by
  obtain ⟨staged, prepared, ran, adds, ending⟩ := generate_ends configuration options before
  rw [ended] at ending
  obtain ⟨files, rfl, published⟩ := ending.exists_files
  obtain ⟨hooks, converters, table, numbered, hooked, read, filesEq, reported⟩ :=
    exists_tracing_of_prepare traced ran
  refine ⟨hooks, converters, table, hooked, read, ?_, reported⟩
  refine published.readText_output filesEq (by decide) (by decide)
    fun location reached file member => ?_
  rcases List.mem_append.mp member with member | member
  · obtain ⟨name, nameMem, destination⟩ := exists_table_name_of_mem member
    have different : ∀ name ∈ outputNames.tail, name ≠ "tracing.gen" := by decide
    rw [destination]
    exact target_output_ne_output (by decide) (List.mem_of_mem_tail nameMem)
      (different name nameMem) reached
  · obtain ⟨path, wanted, rfl⟩ := Option.map_eq_some_iff.mp (Option.mem_toList.mp member)
    exact target_report_ne adds.current (apart path wanted) (target_eq_ok_iff.mp reached).2.2.1

/-- What a scan shows is what a run traces, if the scan looks for the headers of the traced category
where the run does: the tracing source is the rendering of what the scan shows. -/
theorem generate_traces_shown
    (traced : configuration.categories.find? CategorySource.isTraced = some source)
    {scanOptions : ScanOptions} {shown : ScanReport} (ownHeaders : scanOptions.headers = [])
    (tolerance : scanOptions.allowPartial = options.allowPartial)
    (directory : scanOptions.includeDirectory = source.directory options.includeDirectory)
    (scanned : (scan configuration scanOptions before).outcome = .ok shown)
    (ended : (generate configuration options).run before = (after, .ok report))
    (apart : ∀ path ∈ options.report, before.place path ≠ before.place options.tracing) :
    ∃ hooks converters, (loadHooks configuration.naming options before).outcome = .ok hooks ∧
      after.readText options.tracing = .ok (renderTracing shown.symbols hooks converters
        configuration.dialect.functionStart configuration.naming) ∧
      ∃ category ∈ report.categories, category.category = source.category ∧
        category.uncovered = shown.uncovered := by
  obtain ⟨hooks, converters, table, hooked, read, text, reported⟩ :=
    exists_tracing_of_generate traced ended apart
  obtain ⟨shownSource, shownTable, shownTraced, shownRead, rfl⟩ :=
    exists_symbols_of_scan ownHeaders scanned
  rw [traced] at shownTraced
  cases shownTraced
  rw [tolerance, directory, read] at shownRead
  cases shownRead
  refine ⟨hooks, converters, hooked, ?_, reported⟩
  rw [(sameShims_describeSymbols configuration.dialect source.headers table).renderTracing]
  exact text

end Run

namespace OwnDirectory

/-- A traced category whose headers lie in a directory of its own. -/
def source : CategorySource where
  category := ⟨"driver", "levelzero"⟩
  headers := ["h.h"]
  includeDirectory := some ⟨"vendor"⟩

def configuration : Configuration where
  categories := [source]
  converters := []

def options : GenerateOptions where
  includeDirectory := ⟨"include"⟩
  outDirectory := ⟨"out"⟩
  regenerate := true
  allowPartial := true

/-- A scan in a directory. -/
def scanIn (directory : String) : ScanOptions where
  includeDirectory := ⟨directory⟩
  allowPartial := true

/-- Two headers of one name that declare different functions. Only the one that the run does not
read has a slot for its function. -/
def workspace : Workspace where
  nodes := [
    (["include"], .directory),
    (["include", "h.h"], .file
      ("ze_init_params_t \x7b\n\x7d;\nZE_APICALL *ze_pfnInitCb_t\ng \x7b\n" ++
        "ze_pfnInitCb_t f;\n\x7d;\nze_callbacks_t \x7b\ng G;\n\x7d;\n").toUTF8),
    (["vendor"], .directory),
    (["vendor", "h.h"], .file
      ("ze_stop_params_t \x7b\n\x7d;\nZE_APICALL *ze_pfnStopCb_t\ng \x7b\n\x7d;\n" ++
        "ze_callbacks_t \x7b\ng G;\n\x7d;\n").toUTF8)]
  current := []

/-- What a scan shows: the functions and those without a slot. -/
def view (shown : ScanReport) : List String × List String :=
  (shown.functions.map fun scanned => scanned.function.name, shown.uncovered)

theorem exists_include :
    ∃ shown, (scan configuration (scanIn "include") workspace).outcome = .ok shown ∧
      view shown = (["zeInit"], []) :=
  exists_of_map_toOption (by decide +kernel)

theorem exists_vendor :
    ∃ shown, (scan configuration (scanIn "vendor") workspace).outcome = .ok shown ∧
      view shown = (["zeStop"], ["zeStop"]) :=
  exists_of_map_toOption (by decide +kernel)

theorem traced : configuration.categories.find? CategorySource.isTraced = some source := rfl

theorem exists_run : ∃ after report,
    (generate configuration options).run workspace = (after, .ok report) := by
  have succeeds : ((generate configuration options).run workspace).2.toOption.map (fun _ => ()) =
      some () := by
    decide +kernel
  obtain ⟨report, ended, _⟩ := exists_of_map_toOption succeeds
  exact ⟨_, report, Prod.ext rfl ended⟩

end OwnDirectory

open OwnDirectory in
theorem generate_traces_shown_vendor :
    ∃ after report shown, (generate configuration options).run workspace = (after, .ok report) ∧
      (scan configuration (scanIn "vendor") workspace).outcome = .ok shown ∧
      view shown = (["zeStop"], ["zeStop"]) ∧
      ∃ hooks converters, after.readText options.tracing =
        .ok (renderTracing shown.symbols hooks converters "ze" {}) := by
  obtain ⟨after, report, ended⟩ := exists_run
  obtain ⟨shown, scanned, viewed⟩ := exists_vendor
  obtain ⟨hooks, converters, _, traced, _⟩ :=
    generate_traces_shown traced rfl rfl rfl scanned ended nofun
  exact ⟨after, report, shown, ended, scanned, viewed, hooks, converters, traced⟩

open OwnDirectory in
/-- A scan in the include directory of a run shows a function that the run does not trace: the
traced category has a directory of its own. -/
theorem scan_misses_directory :
    configuration.categories.countP CategorySource.isTraced = 1 ∧
    ∃ after report shown table hooks converters,
      (scan configuration ⟨options.includeDirectory, [], options.allowPartial⟩ workspace).outcome =
        .ok shown ∧
      (generate configuration options).run workspace = (after, .ok report) ∧
      after.readText options.tracing = .ok (renderTracing table hooks converters "ze" {}) ∧
      (shown.functions.map fun scanned => scanned.function.name) = ["zeInit"] ∧
      table.functionNames = ["zeStop"] ∧
      shown.uncovered = [] ∧
      ∃ category ∈ report.categories, category.category = source.category ∧
        category.uncovered = ["zeStop"] := by
  obtain ⟨after, report, ended⟩ := exists_run
  obtain ⟨shown, scanned, viewed⟩ := exists_include
  obtain ⟨vendorShown, vendorScanned, vendorViewed⟩ := exists_vendor
  obtain ⟨hooks, converters, table, _, read, traced, category, member, categoryEq, uncovered⟩ :=
    exists_tracing_of_generate traced ended nofun
  obtain ⟨_, vendorTable, vendorSource, vendorRead, rfl⟩ := exists_symbols_of_scan rfl vendorScanned
  cases vendorSource
  cases read.symm.trans vendorRead
  obtain ⟨names, missing⟩ := Prod.mk.inj vendorViewed
  obtain ⟨shownNames, shownMissing⟩ := Prod.mk.inj viewed
  refine ⟨rfl, after, report, shown, table, hooks, converters, scanned, ended, traced, shownNames,
    ?_, shownMissing, category, member, categoryEq, uncovered.trans missing⟩
  rw [describeSymbols, List.map_map] at names
  exact names

end ApiTrace
