import ApiTrace.Proofs.Run.Publication
import ApiTrace.Proofs.Workspace.Temporary

/-!
# Publishing through temporary files

A run that sets its files aside in temporary files and renames them when all are written. If a
temporary file cannot be made, nothing is left of the run but directories; otherwise it ends like a
run that moves its files directly, on the same files. Only where a destination is refused a
temporary file outlives the run: the error keeps it, and it is removed with the error.
-/

namespace ApiTrace

open Operation Workspace

/-- A run through temporary files up to its commit: the temporary files to be renamed and the
report. -/
def prepareThrough (names : NameSource) (configuration : Configuration)
    (options : GenerateOptions) : Operation (List Temporary × GenerateReport) := do
  let draft ← .reading (makeDraft configuration options)
  let held ← .changing fun workspace => workspace.holdAll names [] draft.files
  let removed ← .reading fun workspace => return outdatedLookups options workspace
  let report := draft.report options removed
  let held ← .changing fun workspace =>
    workspace.holdAll names held (reportFiles options report)
  return (held, report)

/-- What a run through temporary files leaves, and how it ends. -/
structure ThroughResult where
  after : Workspace
  /-- The temporary files that its error keeps. -/
  kept : List Temporary
  outcome : Except RunError GenerateReport

/-- What is left when the error of a run is given up. -/
def ThroughResult.released (result : ThroughResult) : Workspace :=
  result.after.discard result.kept

/-- A run through temporary files from its commit on. -/
def concludeThrough (options : GenerateOptions) (held : List Temporary) (report : GenerateReport)
    (workspace : Workspace) : ThroughResult :=
  match workspace.persistAll held with
  | (after, .error (error, temporary)) => ⟨after, [temporary], .error (.access error)⟩
  | (after, .ok ()) =>
    let (last, outcome) := (settle options (held.map Temporary.file) report).run after
    ⟨last, [], outcome⟩

/-- Generate all files of a configuration through temporary files. -/
def generateThrough (names : NameSource) (configuration : Configuration)
    (options : GenerateOptions) (workspace : Workspace) : ThroughResult :=
  match (prepareThrough names configuration options).run workspace with
  | (after, .error cause) => ⟨after, [], .error cause⟩
  | (after, .ok (held, report)) => concludeThrough options held report after

/-- The names in the paths that a run uses once its draft is made. -/
def usedNames (configuration : Configuration) (options : GenerateOptions) (before : Workspace) :
    List String :=
  let files :=
    match (makeDraft configuration options before).outcome with
    | .ok draft => draft.files ++ reportFiles options (draft.report options none)
    | .error _ => []
  before.current ++ stepNames options.lookupChecks.steps ++ files.flatMap StagedFile.names

section Through

/-! ## Up to the commit -/

variable {configuration : Configuration} {options : GenerateOptions} {before : Workspace}
  {names : NameSource}

theorem names_reportFiles (options : GenerateOptions) (first second : GenerateReport) :
    (reportFiles options first).flatMap StagedFile.names =
      (reportFiles options second).flatMap StagedFile.names := by
  unfold reportFiles
  cases options.report <;> rfl

/-- Every file of a run has its names in use. -/
theorem names_subset_usedNames {draft : Draft}
    (drafted : (makeDraft configuration options before).outcome = .ok draft)
    (removed : Option Path) {file : StagedFile}
    (member : file ∈ draft.files ++ reportFiles options (draft.report options removed)) :
    file.names ⊆ usedNames configuration options before := by
  have names := names_reportFiles options (draft.report options removed) (draft.report options none)
  rw [usedNames, drafted]
  dsimp only
  rw [List.flatMap_append, ← names, ← List.flatMap_append]
  apply List.subset_append_of_subset_right
  exact fun name nameMem => List.mem_flatMap.mpr ⟨file, member, nameMem⟩

theorem names_subset_of_prepare {staged : Workspace} {files : List StagedFile}
    {report : GenerateReport}
    (prepared : (prepare configuration options).run before = (staged, .ok (files, report))) :
    ∀ file ∈ files, file.names ⊆ usedNames configuration options before := by
  obtain ⟨draft, between, drafted, _, rfl, _, rfl⟩ := exists_draft_of_prepare prepared
  exact fun file member => names_subset_usedNames drafted _ member

/-- A run whose files can all be staged comes to its commit. -/
theorem run_prepare {draft : Draft} {between staged : Workspace}
    (drafted : (makeDraft configuration options before).outcome = .ok draft)
    (draftStaged : before.stageAll draft.files = (between, .ok ()))
    (reportStaged : between.stageAll (reportFiles options
      (draft.report options (outdatedLookups options between))) = (staged, .ok ())) :
    (prepare configuration options).run before =
      (staged, .ok (draft.files ++ reportFiles options
        (draft.report options (outdatedLookups options between)),
        draft.report options (outdatedLookups options between))) := by
  simp only [prepare, run_bind_eq_ok_iff, run_reading, run_changing_eq_ok_iff, run_pure,
    Prod.mk.injEq, Except.ok.injEq, Journalled.outcome_pure]
  exact ⟨before, draft, ⟨rfl, drafted⟩, between, (), draftStaged, between, _, ⟨rfl, rfl⟩, staged,
    (), reportStaged, rfl, rfl, rfl⟩

theorem current_subset_usedNames : before.current ⊆ usedNames configuration options before := by
  unfold usedNames
  rw [List.append_assoc]
  exact List.subset_append_left ..

theorem lookups_subset_usedNames :
    stepNames options.lookupChecks.steps ⊆ usedNames configuration options before := by
  unfold usedNames
  exact List.subset_append_of_subset_left _ (List.subset_append_right ..)

/-- Setting files aside beside temporary files: it does what staging does, or only directories are
new. -/
theorem run_holdAll {used : List String} {plain actual : Workspace} {temporaries : List Temporary}
    {files : List StagedFile} (beside : Beside used plain actual temporaries)
    (fresh : names.Fresh used) (named : ∀ file ∈ files, file.names ⊆ used) :
    (∃ after held staged,
      (changing fun workspace => workspace.holdAll names temporaries files).run actual =
        (after, .ok held) ∧
      held.map Temporary.file = temporaries.map Temporary.file ++ files ∧
      plain.stageAll files = (staged, .ok ()) ∧ AddsDirectories plain staged ∧
      Beside used staged after held) ∨
    ∃ after cause,
      (changing fun workspace => workspace.holdAll names temporaries files).run actual =
        (after, .error cause) ∧
      ∀ first, AddsDirectories first plain → AddsDirectories first after := by
  have adds := plain.stageAll_adds files
  rcases beside.holdAll fresh named with
    ⟨after, held, ended, sameFiles, staged, besideAll⟩ |
      ⟨after, error, between, failed, more, besideAfter⟩
  · refine .inl ⟨after, held, (plain.stageAll files).1, ?_, sameFiles, Prod.ext rfl staged, adds,
      besideAll⟩
    rw [run_changing, ended]
    rfl
  · refine .inr ⟨after, .access error, ?_, fun first added => ?_⟩
    · rw [run_changing, failed]
      rfl
    · exact besideAfter.addsDirectories (added.trans more)

/-- Up to its commit a run through temporary files leaves only directories if it fails, and else has
the files of a direct run set aside. -/
theorem prepareThrough_agrees (fresh : names.Fresh (usedNames configuration options before)) :
    (∃ after cause,
      (prepareThrough names configuration options).run before = (after, .error cause) ∧
        AddsDirectories before after) ∨
    ∃ after held report staged,
      (prepareThrough names configuration options).run before = (after, .ok (held, report)) ∧
      (prepare configuration options).run before =
        (staged, .ok (held.map Temporary.file, report)) ∧
      Beside (usedNames configuration options before) staged after held := by
  unfold prepareThrough
  rw [run_bind, run_reading]
  cases drafted : (makeDraft configuration options before).outcome with
  | error cause => exact .inl ⟨before, cause, rfl, .refl before⟩
  | ok draft =>
      have named := names_subset_usedNames drafted
      dsimp only
      rcases run_holdAll (Beside.refl current_subset_usedNames) fresh
        fun file member => named none (List.mem_append_left _ member) with
        ⟨between, held, reached, ended, draftFiles, draftStaged, adds, beside⟩ |
          ⟨after, cause, failed, adds⟩
      · have lookupsEq : outdatedLookups options between = outdatedLookups options reached := by
          rw [outdatedLookups, outdatedLookups, beside.hasPath_eq lookups_subset_usedNames]
        rw [run_bind_of_ok ended, run_bind, run_reading]
        dsimp only [Journalled.outcome_pure]
        rw [lookupsEq]
        rcases run_holdAll beside fresh
          fun file member => named (outdatedLookups options reached)
            (List.mem_append_right _ member) with
          ⟨after, all, staged, ended, allFiles, reportStaged, _, besideAll⟩ |
            ⟨after, cause, failed, more⟩
        · rw [run_bind_of_ok ended, run_pure]
          refine .inr ⟨after, all, _, staged, rfl, ?_, besideAll⟩
          rw [allFiles, draftFiles]
          exact run_prepare drafted draftStaged reportStaged
        · rw [run_bind, failed]
          exact .inl ⟨after, cause, rfl, more before adds⟩
      · rw [run_bind, failed]
        exact .inl ⟨after, cause, rfl, adds before (.refl before)⟩

/-! ## From the commit on -/

/-- Outdated lookups are removed beside temporary files. -/
theorem run_removeOutdated_beside {used : List String} {plain actual : Workspace}
    (beside : Beside used plain actual []) {removed : Option Path}
    (named : ∀ path ∈ removed, stepNames path.steps ⊆ used) :
    Beside used ((removeOutdated removed).run plain).1 ((removeOutdated removed).run actual).1 [] ∧
      ((removeOutdated removed).run actual).2 = ((removeOutdated removed).run plain).2 := by
  cases removed with
  | none => exact ⟨beside, rfl⟩
  | some path =>
      obtain ⟨after, same⟩ := beside.removeFile (named path rfl)
      unfold removeOutdated
      rw [run_bind, run_bind, run_changing, run_changing, same]
      cases (plain.removeFile path).2 <;> exact ⟨after, rfl⟩

/-- After its commit a run does the same on the same nodes. -/
theorem run_settle_beside {used : List String} {plain actual : Workspace} {files : List StagedFile}
    {report : GenerateReport} (beside : Beside used plain actual [])
    (lookups : ∀ path ∈ report.removed, stepNames path.steps ⊆ used) :
    Beside used ((settle options files report).run plain).1
        ((settle options files report).run actual).1 [] ∧
      ((settle options files report).run actual).2 =
        ((settle options files report).run plain).2 := by
  obtain ⟨cleared, same⟩ := run_removeOutdated_beside beside lookups
  unfold settle
  rw [run_bind_of_ok (run_writeAll ..), run_bind_of_ok (run_writeAll ..), run_bind, run_bind]
  generalize (removeOutdated report.removed).run plain = plainResult at cleared same ⊢
  generalize (removeOutdated report.removed).run actual = actualResult at cleared same ⊢
  obtain ⟨plainAfter, outcome⟩ := plainResult
  obtain ⟨actualAfter, actualOutcome⟩ := actualResult
  dsimp only at cleared same
  rw [same]
  cases outcome <;> exact ⟨cleared, rfl⟩

/-- No destination is refused after the commit. -/
theorem outcome_settle_ne (options : GenerateOptions) (files : List StagedFile)
    (report : GenerateReport) (workspace : Workspace) (path : Path) (fault : FileFault) :
    ((settle options files report).run workspace).2 ≠
      .error (.access ⟨.writeFile, path, fault⟩) := by
  unfold settle
  rw [run_bind_of_ok (run_writeAll ..), run_bind]
  cases report.removed with
  | none => exact nofun
  | some outdated =>
      cases found : workspace.find outdated with
      | error cause =>
          rw [run_removeOutdated_of_missing found]
          exact nofun
      | ok place =>
          obtain ⟨location, _ | bytes⟩ := place
          · rw [run_removeOutdated_of_directory found]
            exact nofun
          · rw [run_removeOutdated_of_file found]
            exact nofun

/-- How a run through temporary files ends, compared with a direct run. -/
inductive EndsLike (used : List String) (before : Workspace)
    (direct : Workspace × Except RunError GenerateReport) : ThroughResult → Prop where
  /-- It fails before it renames anything: only directories are new. -/
  | unpublished {after : Workspace} {cause : RunError} (adds : AddsDirectories before after) :
      EndsLike used before direct ⟨after, [], .error cause⟩
  /-- A destination is refused: the error keeps the temporary file for it, which lies beside what a
  direct run leaves. -/
  | refused {after : Workspace} {temporary : Temporary} {fault : FileFault}
      (ended : direct.2 = .error (.access ⟨.writeFile, temporary.file.destination, fault⟩))
      (beside : Beside used direct.1 after [temporary]) :
      EndsLike used before direct ⟨after, [temporary], direct.2⟩
  /-- No destination is refused: the nodes are those that a direct run leaves. -/
  | settled {after : Workspace}
      (accepted : ∀ path fault, direct.2 ≠ .error (.access ⟨.writeFile, path, fault⟩))
      (same : Beside used direct.1 after []) :
      EndsLike used before direct ⟨after, [], direct.2⟩

/-- From its commit on a run through temporary files does what a direct run does. -/
theorem concludeThrough_endsLike {used : List String} {plain actual : Workspace}
    {held : List Temporary} {report : GenerateReport} (beside : Beside used plain actual held)
    (named : ∀ temporary ∈ held, temporary.file.names ⊆ used)
    (lookups : ∀ path ∈ report.removed, stepNames path.steps ⊆ used) :
    EndsLike used before ((conclude options (held.map Temporary.file) report).run plain)
      (concludeThrough options held report actual) := by
  unfold concludeThrough conclude
  rcases beside.persistAll named with ⟨after, last, committed, renamed, persisted⟩ |
    ⟨after, last, temporary, fault, committed, failed, persisted⟩
  · obtain ⟨settled, same⟩ := run_settle_beside persisted lookups
    rw [renamed, run_bind_of_ok (run_changing_eq_ok_iff.mpr (by exact committed))]
    dsimp only
    rw [same]
    exact .settled (outcome_settle_ne options _ report after) settled
  · rw [failed, run_bind, run_changing, committed]
    exact .refused rfl persisted

/-- A run through temporary files ends like a direct run, unless it fails before it renames them. -/
theorem generateThrough_endsLike (fresh : names.Fresh (usedNames configuration options before)) :
    EndsLike (usedNames configuration options before) before
      ((generate configuration options).run before)
      (generateThrough names configuration options before) := by
  unfold generateThrough
  rw [generate_eq]
  rcases prepareThrough_agrees fresh with
    ⟨after, cause, failed, adds⟩ | ⟨after, held, report, staged, ended, prepared, beside⟩
  · rw [failed]
    exact .unpublished adds
  · rw [ended, run_bind_of_ok prepared]
    refine concludeThrough_endsLike beside ?_ ?_
    · intro temporary member
      exact names_subset_of_prepare prepared temporary.file (List.mem_map_of_mem member)
    · intro path outdated
      obtain ⟨_, rfl, _⟩ := exists_lookups_of_removed prepared outdated
      exact lookups_subset_usedNames

/-- When the error of a run is given up, no temporary file remains. -/
theorem EndsLike.onlyPublished {used : List String} {staged : Workspace}
    {direct : Workspace × Except RunError GenerateReport} {through : ThroughResult}
    {prepared : Except RunError (List StagedFile × GenerateReport)}
    (like : EndsLike used before direct through)
    (published : OnlyPublished before staged prepared direct.1) :
    OnlyPublished before staged prepared through.released := by
  intro location bytes stands
  cases like with
  | unpublished adds => exact .inl ((adds.file_iff location bytes).mp stands)
  | refused _ beside =>
      have released := beside.discard_all.node?_eq location
      exact published location bytes (released.symm.trans stands)
  | settled _ same => exact published location bytes ((same.node?_eq location).symm.trans stands)

end Through

/-- Every run only adds directories, or it moves its files in order up to the first that is refused;
when all are moved, nothing else has changed but for the outdated lookups. Temporary files change
nothing about this, and none of them remains but the one for the refused destination, which the
error keeps. -/
theorem generate_publishes (configuration : Configuration) (options : GenerateOptions)
    (before : Workspace) :
    ∃ staged prepared, (prepare configuration options).run before = (staged, prepared) ∧
      AddsDirectories before staged ∧
      Ending options staged prepared ((generate configuration options).run before).1
        ((generate configuration options).run before).2 ∧
      ∀ names : NameSource, names.Fresh (usedNames configuration options before) →
        EndsLike (usedNames configuration options before) before
          ((generate configuration options).run before)
          (generateThrough names configuration options before) ∧
        OnlyPublished before staged prepared
          (generateThrough names configuration options before).released := by
  obtain ⟨staged, prepared, ended, adds, ending⟩ := generate_ends configuration options before
  refine ⟨staged, prepared, ended, adds, ending, fun names fresh => ?_⟩
  have like := generateThrough_endsLike fresh
  exact ⟨like, like.onlyPublished (ending.onlyPublished adds)⟩

/-! ## A report in the place of outdated lookups -/

namespace StaleLookups

def configuration : Configuration where
  categories := [{
    category := ⟨"runtime", "sycl"⟩
    functions := .vendorNumbers {}
    headers := ["ur.h"] }]

/-- A run that keeps the shipped numbers and writes a report. -/
def options (report : String) : GenerateOptions where
  includeDirectory := ⟨"include"⟩
  outDirectory := ⟨"out"⟩
  report := some ⟨report⟩

/-- Shipped numbers, and the lookups of an earlier run. -/
def workspace : Workspace where
  nodes := [
    (["include"], .directory),
    (["include", "ur.h"], .file "typedef enum ur_function_t \x7b\n\x7d\n".toUTF8),
    (["out"], .directory),
    (["out", "pti_runtime_sycl_api_ids.h"], .file "reserved_\nurInit_id=1,\n\x7d\n".toUTF8),
    (["out", "tracing_base_apiid_validation_file.gen"], .file "".toUTF8)]
  current := []

/-- The same with a directory in the place of the name tables. -/
def blocked : Workspace :=
  workspace.put ["out", "tracing_cb_api.gen"] .directory

/-- The names of new files. -/
def newNames : List String :=
  [".tmp0aBcDe", ".tmp1fGhIj", ".tmp2kLmNo", ".tmp3pQrSt"]

/-- The first of the new names that stands for nothing yet. -/
def firstNew : NameSource := fun workspace directory =>
  match newNames.find? fun name => workspace.node? (directory ++ [name]) = none with
  | some name => .ok name
  | none => .error .occupied

theorem fresh_firstNew {used : List String} (new : ∀ name ∈ newNames, name ∉ used) :
    firstNew.Fresh used := by
  have given {workspace directory name}
      (given : firstNew workspace directory = .ok name) :
      newNames.find? (fun name => workspace.node? (directory ++ [name]) = none) = some name := by
    unfold firstNew at given
    split at given
    · rename_i found
      cases given
      exact found
    · contradiction
  constructor
  case absent =>
    intro workspace directory name named
    simpa using List.find?_some (given named)
  case unused => exact fun named => new _ (List.mem_of_find?_eq_some (given named))

end StaleLookups

open StaleLookups in
theorem generate_publishes_report :
    firstNew.Fresh (usedNames configuration (options "out/report.json") workspace) ∧
      ∃ staged files report after,
        (prepare configuration (options "out/report.json")).run workspace =
          (staged, .ok (files, report)) ∧
        generateThrough firstNew configuration (options "out/report.json") workspace =
          ⟨after, [], .ok report⟩ ∧
        OnlyPublished workspace staged (.ok (files, report)) after ∧
        ∀ location, after.node? location =
          ((generate configuration (options "out/report.json")).run workspace).1.node?
            location := by
  have fresh : firstNew.Fresh (usedNames configuration (options "out/report.json") workspace) :=
    fresh_firstNew (by decide +kernel)
  have succeeds : (generateThrough firstNew configuration (options "out/report.json")
      workspace).outcome.toOption.isSome = true := by
    decide +kernel
  obtain ⟨staged, prepared, ended, _, ending, through⟩ :=
    generate_publishes configuration (options "out/report.json") workspace
  obtain ⟨like, published⟩ := through firstNew fresh
  generalize generateThrough firstNew configuration (options "out/report.json") workspace = result
    at succeeds published like ⊢
  cases like with
  | unpublished adds => contradiction
  | refused refused beside =>
      rw [refused] at succeeds
      contradiction
  | settled _ same =>
      cases outcome : ((generate configuration (options "out/report.json")).run workspace).2 with
      | error cause =>
          rw [outcome] at succeeds
          contradiction
      | ok report =>
          rw [outcome] at ending
          obtain ⟨files, rfl, _⟩ := ending.exists_files
          exact ⟨fresh, staged, files, report, _, ended, rfl, published, same.node?_eq⟩

open StaleLookups in
/-- The temporary file for a refused destination outlives the run. -/
example : (generateThrough firstNew configuration (options "out/report.json") blocked).kept.map
    (fun temporary => temporary.file.destination) = [(options "out/report.json").nameTables] := by
  decide +kernel

open StaleLookups in
/-- A report that takes the place of outdated lookups is not there after the run that wrote it. -/
theorem generate_removes_report :
    ∃ staged files report after file location,
      (prepare configuration (options "out/tracing_base_apiid_validation_file.gen")).run workspace =
        (staged, .ok (files, report)) ∧
      (generate configuration
          (options "out/tracing_base_apiid_validation_file.gen")).run workspace =
        (after, .ok report) ∧
      file ∈ files ∧ staged.target file.destination = .ok location ∧
      after.node? location = none := by
  have removes : ((generate configuration
      (options "out/tracing_base_apiid_validation_file.gen")).run workspace).2.toOption.bind
      GenerateReport.removed = some ⟨"out/tracing_base_apiid_validation_file.gen"⟩ := by
    decide +kernel
  cases ended : (generate configuration
      (options "out/tracing_base_apiid_validation_file.gen")).run workspace with
  | mk after outcome =>
      rw [ended] at removes
      cases outcome with
      | error cause => contradiction
      | ok report =>
          obtain ⟨staged, files, location, prepared, located, absent⟩ :=
            node?_of_removed ended removes
          obtain ⟨draft, _, _, _, _, _, rfl⟩ := exists_draft_of_prepare prepared
          exact ⟨staged, _, report, after, _, location, prepared, rfl,
            List.mem_append_right _ List.mem_cons_self, located, absent⟩

end ApiTrace
