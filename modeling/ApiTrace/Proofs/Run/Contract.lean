import ApiTrace.Proofs.Run.IdHeaders

/-!
# A run that keeps the numbers

Without new numbers a run reads the id headers and leaves them alone. No other file of a run is
named like an id header, whatever the directories, the naming and the category are, so neither a
moved file nor the removal of outdated lookups touches one. Only the report can be sent to its
place. The tables of a successful run are those of the numbers that the headers ship.
-/

namespace ApiTrace

open Workspace

/-! ## Places of id headers and outputs -/

/-- The end of the name of every id header. -/
def idHeaderEnding : List Char :=
  "_api_ids.h".toList

/-- The path of an id header ends like its name, also if the naming or the category has slashes. -/
theorem exists_toList_idHeader (options : GenerateOptions) (naming : Naming) (category : Category) :
    ∃ start, (options.idHeader naming category).text.toList = start ++ idHeaderEnding := by
  have name : (naming.idStart ++ "_" ++ category.key ++ "_api_ids.h").toList =
      (naming.idStart ++ "_" ++ category.key).toList ++ idHeaderEnding := String.toList_append
  unfold GenerateOptions.idHeader Path.join
  split
  · exact ⟨_, name⟩
  split
  · rw [String.toList_append, name, ← List.append_assoc]
    exact ⟨_, rfl⟩
  · rw [String.toList_append, name, ← List.append_assoc]
    exact ⟨_, rfl⟩

theorem exists_name_of_idHeader {workspace : Workspace}
    {options : GenerateOptions} {naming : Naming}
    {category : Category} {location : Location}
    (located : workspace.locate (options.idHeader naming category) = .ok location) :
    ∃ name, location.getLast? = some name ∧ idHeaderEnding <:+ name.toList := by
  obtain ⟨start, written⟩ := exists_toList_idHeader options naming category
  exact exists_name_of_locate written (by decide) (by decide) located

/-- The place of an output has its name. -/
theorem getLast?_of_target_output {staged : Workspace} {options : GenerateOptions} {name : String}
    (member : name ∈ outputNames) {location : Location}
    (reached : staged.target (options.output name) = .ok location) :
    location.getLast? = some name :=
  getLast?_of_locate_join (isName_of_mem_outputNames member) (target_eq_ok_iff.mp reached).2.2.1

/-- No output lies at the place of an id header. -/
theorem target_output_ne_idHeader {staged : Workspace} {options : GenerateOptions} {naming : Naming}
    {category : Category} {location : Location}
    (located : staged.locate (options.idHeader naming category) = .ok location) {name : String}
    (member : name ∈ outputNames) : staged.target (options.output name) ≠ .ok location := by
  have endings : ∀ name ∈ outputNames, ¬ idHeaderEnding <:+ name.toList := by
    decide
  intro reached
  obtain ⟨last, lastEq, ends⟩ := exists_name_of_idHeader located
  rw [getLast?_of_target_output member reached] at lastEq
  cases lastEq
  exact endings name member ends

/-- Outputs of different names lie apart. -/
theorem target_output_ne_output {staged : Workspace} {options : GenerateOptions}
    {name other : String} (member : name ∈ outputNames) (otherMember : other ∈ outputNames)
    (different : other ≠ name) {location : Location}
    (reached : staged.target (options.output name) = .ok location) :
    staged.target (options.output other) ≠ .ok location := by
  intro otherReached
  have last := getLast?_of_target_output otherMember otherReached
  rw [getLast?_of_target_output member reached] at last
  exact different (Option.some.inj last).symm

/-- The report is sent neither to an id header nor to another output. -/
def GenerateOptions.ReportApart (options : GenerateOptions) (configuration : Configuration)
    (workspace : Workspace) : Prop :=
  ∀ path ∈ options.report,
    (∀ source ∈ configuration.categories, workspace.place path ≠
      workspace.place (options.idHeader configuration.naming source.category)) ∧
    ∀ name ∈ outputNames, workspace.place path ≠ workspace.place (options.output name)

instance (options : GenerateOptions) (configuration : Configuration) (workspace : Workspace) :
    Decidable (options.ReportApart configuration workspace) :=
  inferInstanceAs (Decidable (∀ path ∈ options.report,
    (∀ source ∈ configuration.categories, workspace.place path ≠
      workspace.place (options.idHeader configuration.naming source.category)) ∧
    ∀ name ∈ outputNames, workspace.place path ≠ workspace.place (options.output name)))

theorem target_report_ne {before staged : Workspace} (current : staged.current = before.current)
    {path other : Path} (apart : before.place path ≠ before.place other) {location : Location}
    (located : staged.locate other = .ok location) : staged.target path ≠ .ok location := by
  intro reached
  apply apart
  rw [← place_congr current, ← place_congr current, place_of_locate located,
    place_of_locate (target_eq_ok_iff.mp reached).2.2.1]

/-! ## What a run leaves alone -/

section Publication

variable {options : GenerateOptions} {before staged after : Workspace} {files : List StagedFile}
  {report : GenerateReport} {outcome : Except RunError GenerateReport}

/-- However a run ends, its directories stay. -/
theorem Published.keepsDirectories
    (published : Published options staged files report after outcome) :
    KeepsDirectories staged after := by
  cases published with
  | stopped split kept refused => exact kept.keepsDirectories
  | complete current kept => exact kept.keepsDirectories
  | uncleared shipped outdated located kept => exact kept.keepsDirectories
  | cleared shipped outdated located kept =>
      refine kept.keepsDirectories.trans (.erase ?_)
      rw [ne_eq, kept.directory_iff]
      exact (target_eq_ok_iff.mp located).2.2.2

/-- However a run ends, a place is as it was if no file goes there and it is not that of the
lookups. -/
theorem Published.node?_of_elsewhere
    (published : Published options staged files report after outcome) {location : Location}
    (elsewhere : ∀ file ∈ files, staged.target file.destination ≠ .ok location)
    (notLookups : staged.target options.lookupChecks ≠ .ok location) :
    after.node? location = staged.node? location := by
  cases published with
  | stopped split kept refused =>
      exact kept.node?_of_elsewhere fun file member =>
        elsewhere file (split ▸ List.mem_append_left _ member)
  | complete current kept => exact kept.node?_of_elsewhere elsewhere
  | uncleared shipped outdated located kept => exact kept.node?_of_elsewhere elsewhere
  | cleared shipped outdated located kept =>
      have different : location ≠ _ := fun same => notLookups (same ▸ located)
      rw [node?_erase_of_ne _ different]
      exact kept.node?_of_elsewhere elsewhere

/-- After a successful run every destination but the lookups holds the last text for its place. -/
theorem Published.readText (published : Published options staged files report after (.ok report))
    {path : Path} {location : Location} (reached : staged.target path = .ok location)
    (notLookups : staged.target options.lookupChecks ≠ .ok location) {text : String}
    (last : staged.lastText? files location = some text) : after.readText path = .ok text := by
  cases published with
  | complete current kept => exact kept.readText reached last
  | cleared shipped outdated located kept =>
      rename_i moved place
      have different : location ≠ place := fun same => notLookups (same ▸ located)
      have keeps : KeepsDirectories moved (moved.erase place) := .erase fun stands =>
        (target_eq_ok_iff.mp located).2.2.2 ((kept.directory_iff place).mp stands)
      exact readText_of_find
        (keeps.find_file (kept.find_file reached last) (node?_erase_of_ne _ different))

theorem Published.reached (published : Published options staged files report after (.ok report))
    {file : StagedFile} (member : file ∈ files) :
    ∃ location, staged.target file.destination = .ok location := by
  cases published with
  | complete current kept => exact kept.reached file member
  | cleared shipped outdated located kept => exact kept.reached file member

/-- After a successful run an output that is not outdated holds what was staged for it. -/
theorem Published.readText_output
    (published : Published options staged files report after (.ok report))
    {earlier later : List StagedFile} {name text : String}
    (split : files = earlier ++ ⟨options.output name, text⟩ :: later) (member : name ∈ outputNames)
    (current : name ≠ "tracing_base_apiid_validation_file.gen")
    (elsewhere : ∀ location, staged.target (options.output name) = .ok location →
      ∀ file ∈ later, staged.target file.destination ≠ .ok location) :
    after.readText (options.output name) = .ok text := by
  have staged : (⟨options.output name, text⟩ : StagedFile) ∈ files := by
    rw [split]
    exact List.mem_append_right _ List.mem_cons_self
  obtain ⟨location, reached⟩ := published.reached staged
  refine published.readText reached ?_ ?_
  · exact target_output_ne_output member (by decide) current.symm reached
  · rw [split]
    exact lastText?_eq_some reached (elsewhere location reached)

end Publication

/-! ## A whole run -/

section Run

variable {configuration : Configuration} {options : GenerateOptions}
  {before staged after : Workspace} {files : List StagedFile} {report : GenerateReport}

/-- A run without a draft leaves everything as it was. -/
theorem run_generate_of_error {cause : RunError}
    (failed : (makeDraft configuration options before).outcome = .error cause) :
    (generate configuration options).run before = (before, .error cause) := by
  rw [generate, Operation.run_bind, Operation.run_reading, failed]

/-- The files of a run that keeps the numbers: the tracing source, the tables, and the report. -/
theorem exists_files_of_kept (kept : options.regenerate = false) {draft : Draft}
    (drafted : (makeDraft configuration options before).outcome = .ok draft)
    (prepared : (prepare configuration options).run before = (staged, .ok (files, report))) :
    ∃ numbered tracing,
      List.Forall₂ (Reloaded configuration options before) configuration.categories numbered ∧
      files = tracing ++ tableFiles configuration.naming options numbered ++
        reportFiles options report ∧
      ∀ file ∈ tracing ++ tableFiles configuration.naming options numbered,
        ∃ name ∈ outputNames, file.destination = options.output name := by
  obtain ⟨_, _, draftedAgain, _, _, _, rfl⟩ := exists_draft_of_prepare prepared
  rw [drafted] at draftedAgain
  cases draftedAgain
  obtain ⟨numbered, tracing, numberedEq, _, files, traced⟩ := exists_numbered_of_makeDraft drafted
  refine ⟨numbered, tracing, reloaded_of_numberCategories kept numberedEq, ?_, ?_⟩
  · rw [files, idHeaderFiles, lookupFiles, if_neg (by simp [kept]), if_neg (by simp [kept]),
      List.nil_append, List.append_nil]
  · intro file member
    exact exists_output_of_mem traced (List.mem_append_left _ member)

/-- No file of a run that keeps the numbers goes to an id header. -/
theorem target_ne_idHeader (apart : options.ReportApart configuration before)
    (current : staged.current = before.current) {outputs : List StagedFile}
    (named : ∀ file ∈ outputs, ∃ name ∈ outputNames, file.destination = options.output name)
    {source : CategorySource} (sourceMem : source ∈ configuration.categories) {location : Location}
    (located : staged.locate (options.idHeader configuration.naming source.category) =
      .ok location) :
    ∀ file ∈ outputs ++ reportFiles options report,
      staged.target file.destination ≠ .ok location := by
  intro file member
  rcases List.mem_append.mp member with member | member
  · obtain ⟨name, nameMem, destination⟩ := named file member
    rw [destination]
    exact target_output_ne_idHeader located nameMem
  · obtain ⟨path, wanted, rfl⟩ := Option.map_eq_some_iff.mp (Option.mem_toList.mp member)
    exact target_report_ne current ((apart path wanted).1 source sourceMem) located

/-- The id header of a source is read before the run. -/
theorem exists_find_of_reloaded {numbered : List NumberedCategory} {sources : List CategorySource}
    (reloaded : List.Forall₂ (Reloaded configuration options before) sources numbered)
    {source : CategorySource} (member : source ∈ sources) :
    ∃ location bytes, before.find (options.idHeader configuration.naming source.category) =
      .ok (location, .file bytes) := by
  induction reloaded with
  | nil => contradiction
  | cons head _ ih =>
      rcases List.mem_cons.mp member with rfl | member
      · obtain ⟨text, _, read, _⟩ := head.shipped
        rw [head.idFile] at read
        exact exists_find_of_readText read
      · exact ih member

/-- A run that keeps the numbers leaves every id header as it was. -/
theorem readBytes_idHeader (kept : options.regenerate = false)
    (apart : options.ReportApart configuration before) {source : CategorySource}
    (sourceMem : source ∈ configuration.categories) :
    ((generate configuration options).run before).1.readBytes
        (options.idHeader configuration.naming source.category) =
      before.readBytes (options.idHeader configuration.naming source.category) := by
  cases drafted : (makeDraft configuration options before).outcome with
  | error cause => rw [run_generate_of_error drafted]
  | ok draft =>
      obtain ⟨staged, prepared, ran, adds, ending⟩ := generate_ends configuration options before
      generalize (generate configuration options).run before = result at ending ⊢
      obtain ⟨after, outcome⟩ := result
      obtain ⟨numbered, _, numberedEq, _⟩ := exists_numbered_of_makeDraft drafted
      obtain ⟨location, bytes, found⟩ :=
        exists_find_of_reloaded (reloaded_of_numberCategories kept numberedEq) sourceMem
      have foundStaged : staged.find (options.idHeader configuration.naming source.category) =
          .ok (location, .file bytes) := by
        obtain ⟨_, stands, _⟩ := find_eq_ok_iff.mp found
        exact adds.keepsDirectories.find_file found ((adds.node?_eq_some stands).trans stands.symm)
      have located := (find_eq_ok_iff.mp foundStaged).1
      have foundAfter : after.find (options.idHeader configuration.naming source.category) =
          .ok (location, .file bytes) := by
        cases ending with
        | unpublished cause => exact foundStaged
        | published published =>
            obtain ⟨_, tracing, _, rfl, named⟩ := exists_files_of_kept kept drafted ran
            refine published.keepsDirectories.find_file foundStaged
              (published.node?_of_elsewhere ?_ ?_)
            · exact target_ne_idHeader apart adds.current named sourceMem located
            · exact target_output_ne_idHeader located (by decide)
      rw [readBytes_of_find found, readBytes_of_find foundAfter]

/-- The tables of a successful run that keeps the numbers are those of the shipped numbers. -/
theorem exists_tables_of_kept (kept : options.regenerate = false)
    (apart : options.ReportApart configuration before)
    (ended : (generate configuration options).run before = (after, .ok report)) :
    ∃ numbered,
      List.Forall₂ (Reloaded configuration options before) configuration.categories numbered ∧
      after.readText options.nameTables = .ok (generatedMark ++ "\n" ++ String.join
        (numbered.map fun numbered => renderNameTable numbered.assignment configuration.naming)) ∧
      after.readText options.stateMaps = .ok (renderStateMaps
        (numbered.map fun numbered =>
          renderStateTable numbered.assignment configuration.naming)) := by
  obtain ⟨staged, prepared, ran, adds, ending⟩ := generate_ends configuration options before
  rw [ended] at ending
  obtain ⟨files, rfl, published⟩ := ending.exists_files
  obtain ⟨draft, _, drafted, _⟩ := exists_draft_of_prepare ran
  obtain ⟨numbered, tracing, reloaded, filesEq, _⟩ := exists_files_of_kept kept drafted ran
  have reportElsewhere {name : String} (member : name ∈ outputNames) (location : Location)
      (reached : staged.target (options.output name) = .ok location) :
      ∀ file ∈ reportFiles options report, staged.target file.destination ≠ .ok location := by
    intro file fileMem
    obtain ⟨path, wanted, rfl⟩ := Option.map_eq_some_iff.mp (Option.mem_toList.mp fileMem)
    exact target_report_ne adds.current ((apart path wanted).2 name member)
      (target_eq_ok_iff.mp reached).2.2.1
  rw [tableFiles, List.append_assoc, List.cons_append, List.singleton_append] at filesEq
  refine ⟨numbered, reloaded, ?_, ?_⟩
  · refine published.readText_output filesEq (by decide) (by decide) fun location reached => ?_
    rw [List.forall_mem_cons]
    exact ⟨target_output_ne_output (by decide) (by decide) (by decide) reached,
      reportElsewhere (by decide) location reached⟩
  · rw [List.append_cons] at filesEq
    exact published.readText_output filesEq (by decide) (by decide) (reportElsewhere (by decide))

/-- A run that keeps the numbers leaves the id headers as they are, whether it succeeds or fails,
unless its report is sent to one. If it succeeds, the tables of names and of states are those of the
numbers that the headers ship, one for each category in the order of the configuration. -/
theorem generate_keeps_contract (kept : options.regenerate = false)
    (apart : options.ReportApart configuration before) {outcome : Except RunError GenerateReport}
    (ended : (generate configuration options).run before = (after, outcome)) :
    (∀ source ∈ configuration.categories,
      after.readBytes (options.idHeader configuration.naming source.category) =
        before.readBytes (options.idHeader configuration.naming source.category)) ∧
    ∀ report, outcome = .ok report → ∃ assignments,
      List.Forall₂ (fun source assignment => ∃ text map,
        let header := options.idHeader configuration.naming source.category
        before.readText header = .ok text ∧ IdMap.parse header.text text = .ok map ∧
          assignment = Assignment.ofMap source.category map) configuration.categories assignments ∧
      after.readText options.nameTables = .ok (generatedMark ++ "\n" ++ String.join
        (assignments.map fun assignment => renderNameTable assignment configuration.naming)) ∧
      after.readText options.stateMaps = .ok (renderStateMaps
        (assignments.map fun assignment => renderStateTable assignment configuration.naming)) := by
  constructor
  · intro source sourceMem
    have same := readBytes_idHeader kept apart sourceMem
    rw [ended] at same
    exact same
  · rintro report rfl
    obtain ⟨numbered, reloaded, nameTables, stateMaps⟩ := exists_tables_of_kept kept apart ended
    refine ⟨numbered.map NumberedCategory.assignment, ?_, ?_, ?_⟩
    · rw [List.forall₂_map_right_iff]
      refine reloaded.imp fun source numbered made => ?_
      obtain ⟨text, map, read, parsed, assigned⟩ := made.shipped
      rw [made.idFile] at read parsed
      exact ⟨text, map, read, parsed, assigned⟩
    · rw [List.map_map]
      exact nameTables
    · rw [List.map_map]
      exact stateMaps

end Run

namespace Reload

/-- A run that keeps the numbers, with id headers in a directory of their own and a report. -/
def options : GenerateOptions :=
  { TwoCategories.options with
    idDirectory := some ⟨"ids"⟩
    regenerate := false
    report := some ⟨"out/report.json"⟩ }

/-- What the two id headers ship. -/
def header (key entry : String) : String :=
  "    reserved_" ++ key ++ "_id=0,\n    " ++ entry ++ ",\n \x7d pti_api_id_" ++ key ++ ";\n"

/-- The id headers and outdated lookups of an earlier run. -/
def workspace : Workspace :=
  { TwoCategories.workspace with
    nodes := TwoCategories.workspace.nodes ++ [
      (["ids"], .directory),
      (["ids", "pti_runtime_sycl_api_ids.h"],
        .file (header "runtime_sycl" "urInit_id=4").toUTF8),
      (["ids", "pti_runtime_pi_api_ids.h"], .file (header "runtime_pi" "piInit_id=7").toUTF8),
      (["out"], .directory),
      (["out", "tracing_base_apiid_validation_file.gen"], .file "lookups\n".toUTF8)] }

end Reload

open Reload TwoCategories in
theorem generate_keeps_contract_reload :
    Reload.options.ReportApart apart Reload.workspace ∧
      ∃ after report, (generate apart Reload.options).run Reload.workspace = (after, .ok report) ∧
        after.readBytes ⟨"ids/pti_runtime_sycl_api_ids.h"⟩ =
          .ok (header "runtime_sycl" "urInit_id=4").toUTF8 ∧
        after.readBytes ⟨"ids/pti_runtime_pi_api_ids.h"⟩ =
          .ok (header "runtime_pi" "piInit_id=7").toUTF8 ∧
        ∃ nameTables, after.readText ⟨"out/tracing_cb_api.gen"⟩ = .ok nameTables := by
  have reportApart : Reload.options.ReportApart apart Reload.workspace := by decide +kernel
  refine ⟨reportApart, ?_⟩
  cases ended : (generate apart Reload.options).run Reload.workspace with
  | mk after outcome =>
      have succeeds : ((generate apart Reload.options).run Reload.workspace).2.toOption.isSome =
          true := by
        decide +kernel
      rw [ended] at succeeds
      cases outcome with
      | error cause => contradiction
      | ok report =>
          obtain ⟨headers, tables⟩ := generate_keeps_contract rfl reportApart ended
          obtain ⟨_, _, nameTables, _⟩ := tables report rfl
          refine ⟨after, report, rfl, ?_, ?_, _, nameTables⟩
          · exact (headers _ List.mem_cons_self).trans (by rfl)
          · exact (headers _ (List.mem_cons_of_mem _ List.mem_cons_self)).trans (by rfl)

end ApiTrace
