import ApiTrace.Proofs.Run.Operation
import ApiTrace.Proofs.Workspace.Staging
import ApiTrace.Run.Generate

/-!
# What a run publishes

A generating run is cut where it begins to move files. Up to there it only adds directories, however
it ends. From there on it moves all files or those before the first that is refused, and only then
removes the outdated lookups. Since these were looked for before the files were moved, a report that
takes their place is removed in their stead.
-/

namespace ApiTrace

/-! ## Before and after the commit -/

/-- A run up to its commit: the files to be moved and the report. -/
def prepare (configuration : Configuration) (options : GenerateOptions) :
    Operation (List StagedFile × GenerateReport) := do
  let draft ← .reading (makeDraft configuration options)
  .changing fun workspace => workspace.stageAll draft.files
  let removed ← .reading fun workspace => return outdatedLookups options workspace
  let report := draft.report options removed
  let reported := reportFiles options report
  .changing fun workspace => workspace.stageAll reported
  return (draft.files ++ reported, report)

/-- A run after its commit. -/
def settle (options : GenerateOptions) (files : List StagedFile) (report : GenerateReport) :
    Operation GenerateReport := do
  .writeAll .debug (files.map fun file => "wrote " ++ file.destination.text)
  removeOutdated report.removed
  .write .info
    ("generated " ++ Text.showNat files.length ++ " files in " ++ options.outDirectory.text)
  return report

/-- A run from its commit on. -/
def conclude (options : GenerateOptions) (files : List StagedFile) (report : GenerateReport) :
    Operation GenerateReport := do
  .changing fun workspace => workspace.commit files
  settle options files report

theorem generate_eq (configuration : Configuration) (options : GenerateOptions) :
    generate configuration options =
      prepare configuration options >>= fun (files, report) => conclude options files report := by
  simp only [generate, publish, prepare, conclude, settle, Draft.report, bind_assoc, pure_bind]

open Operation Workspace

/-- An operation that adds only directories, however it ends. -/
def Operation.AddsDirectories {α : Type} (operation : Operation α) : Prop :=
  ∀ before, Workspace.AddsDirectories before (operation.run before).1

theorem Operation.AddsDirectories.bind {α β : Type} {first : Operation α} {next : α → Operation β}
    (start : first.AddsDirectories) (rest : ∀ value, (next value).AddsDirectories) :
    (first >>= next).AddsDirectories := by
  intro before
  have started := start before
  rw [run_bind]
  generalize first.run before = result at started
  obtain ⟨between, outcome⟩ := result
  cases outcome with
  | error cause => exact started
  | ok value => exact started.trans (rest value between)

/-- Up to the commit a run only adds directories. -/
theorem prepare_addsDirectories (configuration : Configuration) (options : GenerateOptions) :
    (prepare configuration options).AddsDirectories :=
  .bind (fun before => .refl before) fun draft =>
    .bind (fun before => before.stageAll_adds draft.files) fun _ =>
      .bind (fun before => .refl before) fun _ =>
        .bind (fun before => before.stageAll_adds _) fun _ before => .refl before

section Prepared

variable {configuration : Configuration} {options : GenerateOptions} {before staged : Workspace}
  {files : List StagedFile} {report : GenerateReport}

/-- What a run has done when it comes to its commit. -/
theorem exists_draft_of_prepare
    (prepared : (prepare configuration options).run before = (staged, .ok (files, report))) :
    ∃ draft between, (makeDraft configuration options before).outcome = .ok draft ∧
      before.stageAll draft.files = (between, .ok ()) ∧
      report = draft.report options (outdatedLookups options between) ∧
      between.stageAll (reportFiles options report) = (staged, .ok ()) ∧
      files = draft.files ++ reportFiles options report := by
  simp only [prepare, run_bind_eq_ok_iff, run_reading, run_changing_eq_ok_iff, run_pure,
    Prod.mk.injEq, Except.ok.injEq, Journalled.outcome_pure] at prepared
  obtain ⟨_, draft, ⟨rfl, drafted⟩, between, _, draftStaged, _, _, ⟨rfl, rfl⟩, _, _, reportStaged,
    rfl, rfl, rfl⟩ := prepared
  exact ⟨draft, between, drafted, draftStaged, rfl, reportStaged, rfl⟩

/-- The lookups that a run is going to remove are those of an earlier run, and they are there. -/
theorem exists_lookups_of_removed
    (prepared : (prepare configuration options).run before = (staged, .ok (files, report)))
    {path : Path} (outdated : report.removed = some path) :
    options.regenerate = false ∧ path = options.lookupChecks ∧
      ∃ location node, staged.find options.lookupChecks = .ok (location, node) := by
  obtain ⟨draft, between, _, _, rfl, reportStaged, _⟩ := exists_draft_of_prepare prepared
  have removedEq : outdatedLookups options between = some path := outdated
  unfold outdatedLookups at removedEq
  split at removedEq
  · rename_i there
    rw [Bool.and_eq_true, Bool.not_eq_true'] at there
    obtain ⟨shipped, there⟩ := there
    cases removedEq
    refine ⟨shipped, rfl, ?_⟩
    unfold hasPath at there
    cases found : between.find options.lookupChecks with
    | error fault =>
        rw [found] at there
        contradiction
    | ok place =>
        obtain ⟨location, node⟩ := place
        have adds := between.stageAll_adds
          (reportFiles options (draft.report options (outdatedLookups options between)))
        rw [reportStaged] at adds
        obtain ⟨located, stands, names⟩ := find_eq_ok_iff.mp found
        exact ⟨location, node, find_eq_ok_iff.mpr
          ⟨adds.keepsDirectories.locate_eq_ok located, adds.node?_eq_some stands, names⟩⟩
  · contradiction

end Prepared

/-! ## How a run ends -/

/-- What a run leaves after it came to its commit. -/
inductive Published (options : GenerateOptions) (staged : Workspace) (files : List StagedFile)
    (report : GenerateReport) : Workspace → Except RunError GenerateReport → Prop where
  /-- A destination is refused: the files before it are moved. -/
  | stopped {after : Workspace} {moved later : List StagedFile} {file : StagedFile}
      {fault : FileFault} (split : files = moved ++ file :: later)
      (kept : Moved staged after moved)
      (refused : after.target file.destination = .error fault) :
      Published options staged files report after
        (.error (.access ⟨.writeFile, file.destination, fault⟩))
  /-- All files are moved. -/
  | complete {after : Workspace} (current : report.removed = none)
      (kept : Moved staged after files) :
      Published options staged files report after (.ok report)
  /-- All files are moved, then what stands at the outdated lookups is removed. -/
  | cleared {moved : Workspace} {location : Location} (shipped : options.regenerate = false)
      (outdated : report.removed = some options.lookupChecks)
      (located : staged.target options.lookupChecks = .ok location)
      (kept : Moved staged moved files) :
      Published options staged files report (moved.erase location) (.ok report)
  /-- All files are moved, but a directory stands at the outdated lookups. -/
  | uncleared {after : Workspace} {location : Location} (shipped : options.regenerate = false)
      (outdated : report.removed = some options.lookupChecks)
      (located : staged.find options.lookupChecks = .ok (location, .directory))
      (kept : Moved staged after files) :
      Published options staged files report after
        (.error (.access ⟨.removeFile, options.lookupChecks, .isDirectory⟩))

theorem run_removeOutdated_of_missing {workspace : Workspace} {path : Path} {fault : FileFault}
    (found : workspace.find path = .error fault) :
    (removeOutdated (some path)).run workspace = (workspace, .ok ()) := by
  have removed : workspace.removeFile path = (workspace, .ok false) := by
    rw [removeFile, found]
  unfold removeOutdated
  rw [run_bind_of_ok (run_changing_eq_ok_iff.mpr removed), run_write]

theorem run_removeOutdated_of_file {workspace : Workspace} {path : Path} {location : Location}
    {bytes : ByteArray} (found : workspace.find path = .ok (location, .file bytes)) :
    (removeOutdated (some path)).run workspace = (workspace.erase location, .ok ()) := by
  have removed : workspace.removeFile path = (workspace.erase location, .ok true) := by
    rw [removeFile, found]
  unfold removeOutdated
  rw [run_bind_of_ok (run_changing_eq_ok_iff.mpr removed), run_write]

theorem run_removeOutdated_of_directory {workspace : Workspace} {path : Path}
    {location : Location} (found : workspace.find path = .ok (location, .directory)) :
    (removeOutdated (some path)).run workspace =
      (workspace, .error (.access ⟨.removeFile, path, .isDirectory⟩)) := by
  have refused : workspace.removeFile path =
      (workspace, .error ⟨.removeFile, path, .isDirectory⟩) := by
    rw [removeFile, found]
  unfold removeOutdated
  rw [run_bind, run_changing, refused]
  rfl

/-- A run that came to its commit ends in one of these ways. -/
theorem published_conclude {configuration : Configuration} {options : GenerateOptions}
    {before staged : Workspace} {files : List StagedFile} {report : GenerateReport}
    (prepared : (prepare configuration options).run before = (staged, .ok (files, report))) :
    Published options staged files report ((conclude options files report).run staged).1
      ((conclude options files report).run staged).2 := by
  have committed := committed_commit staged files
  unfold conclude
  rw [run_bind, run_changing]
  generalize staged.commit files = result at committed ⊢
  obtain ⟨between, outcome⟩ := result
  cases committed with
  | stopped split kept refused => exact .stopped split kept refused
  | complete kept =>
      change Published options staged files report ((settle options files report).run between).1
        ((settle options files report).run between).2
      unfold settle
      rw [run_bind_of_ok (run_writeAll ..), run_bind]
      cases outdated : report.removed with
      | none => exact .complete outdated kept
      | some path =>
          obtain ⟨shipped, rfl, location, node, found⟩ :=
            exists_lookups_of_removed prepared outdated
          cases node with
          | directory =>
              rw [run_removeOutdated_of_directory (kept.find_directory found)]
              exact .uncleared shipped outdated found kept
          | file bytes =>
              obtain ⟨bytes, foundAfter⟩ := kept.exists_find_file found
              rw [run_removeOutdated_of_file foundAfter]
              exact .cleared shipped outdated (target_of_find found) kept

/-- How a run ends: before its commit, or in one of the ways in which a commit does. -/
inductive Ending (options : GenerateOptions) (staged : Workspace) :
    Except RunError (List StagedFile × GenerateReport) → Workspace →
      Except RunError GenerateReport → Prop where
  /-- Nothing is moved. -/
  | unpublished (cause : RunError) : Ending options staged (.error cause) staged (.error cause)
  | published {files : List StagedFile} {report : GenerateReport} {after : Workspace}
      {outcome : Except RunError GenerateReport}
      (ended : Published options staged files report after outcome) :
      Ending options staged (.ok (files, report)) after outcome

/-- Every file was there before, or it is a published one at its destination. -/
def OnlyPublished (before staged : Workspace)
    (prepared : Except RunError (List StagedFile × GenerateReport)) (after : Workspace) : Prop :=
  ∀ location bytes, after.node? location = some (.file bytes) →
    before.node? location = some (.file bytes) ∨
      ∃ files report, prepared = .ok (files, report) ∧ ∃ file ∈ files,
        staged.target file.destination = .ok location ∧ file.contents.toUTF8 = bytes

theorem Published.file {options : GenerateOptions} {staged after : Workspace}
    {files : List StagedFile} {report : GenerateReport} {outcome : Except RunError GenerateReport}
    (published : Published options staged files report after outcome) {location : Location}
    {bytes : ByteArray} (stands : after.node? location = some (.file bytes)) :
    staged.node? location = some (.file bytes) ∨
      ∃ file ∈ files, staged.target file.destination = .ok location ∧
        file.contents.toUTF8 = bytes := by
  cases published with
  | stopped split kept refused =>
      rcases kept.file stands with stood | ⟨file, member, reached, contents⟩
      · exact .inl stood
      · exact .inr ⟨file, split ▸ List.mem_append_left _ member, reached, contents⟩
  | complete current kept => exact kept.file stands
  | uncleared shipped outdated located kept => exact kept.file stands
  | cleared shipped outdated located kept =>
      rename_i moved place
      have elsewhere : location ≠ place := by
        rintro rfl
        rw [node?_erase_self moved (ne_nil_of_target located)] at stands
        contradiction
      rw [node?_erase_of_ne moved elsewhere] at stands
      exact kept.file stands

theorem Ending.onlyPublished {options : GenerateOptions} {before staged after : Workspace}
    {prepared : Except RunError (List StagedFile × GenerateReport)}
    {outcome : Except RunError GenerateReport}
    (ending : Ending options staged prepared after outcome) (adds : AddsDirectories before staged) :
    OnlyPublished before staged prepared after := by
  intro location bytes stands
  cases ending with
  | unpublished cause => exact .inl ((adds.file_iff location bytes).mp stands)
  | published ended =>
      rcases ended.file stands with stood | published
      · exact .inl ((adds.file_iff location bytes).mp stood)
      · exact .inr ⟨_, _, rfl, published⟩

theorem generate_ends (configuration : Configuration) (options : GenerateOptions)
    (before : Workspace) :
    ∃ staged prepared, (prepare configuration options).run before = (staged, prepared) ∧
      AddsDirectories before staged ∧
      Ending options staged prepared ((generate configuration options).run before).1
        ((generate configuration options).run before).2 := by
  have adds := prepare_addsDirectories configuration options before
  cases ended : (prepare configuration options).run before with
  | mk staged prepared =>
      rw [ended] at adds
      refine ⟨staged, prepared, rfl, adds, ?_⟩
      rw [generate_eq, run_bind, ended]
      cases prepared with
      | error cause => exact .unpublished cause
      | ok value => exact .published (published_conclude ended)

/-- What a successful run reports is what it had prepared. -/
theorem Ending.exists_files {options : GenerateOptions} {staged after : Workspace}
    {prepared : Except RunError (List StagedFile × GenerateReport)} {report : GenerateReport}
    (ending : Ending options staged prepared after (.ok report)) :
    ∃ files, prepared = .ok (files, report) ∧
      Published options staged files report after (.ok report) := by
  cases ending with
  | published published =>
      cases published with
      | complete current kept => exact ⟨_, rfl, .complete current kept⟩
      | cleared shipped outdated located kept =>
          exact ⟨_, rfl, .cleared shipped outdated located kept⟩

/-- After a successful run nothing stands in the place of lookups that it reports as removed. -/
theorem node?_of_removed {configuration : Configuration} {options : GenerateOptions}
    {before after : Workspace} {report : GenerateReport} {path : Path}
    (ended : (generate configuration options).run before = (after, .ok report))
    (outdated : report.removed = some path) :
    ∃ staged files location, (prepare configuration options).run before =
        (staged, .ok (files, report)) ∧
      staged.target options.lookupChecks = .ok location ∧ after.node? location = none := by
  obtain ⟨staged, prepared, ran, _, ending⟩ := generate_ends configuration options before
  rw [ended] at ending
  obtain ⟨files, rfl, published⟩ := ending.exists_files
  cases published with
  | complete current =>
      rw [current] at outdated
      contradiction
  | cleared shipped _ located =>
      exact ⟨staged, files, _, ran, located, node?_erase_self _ (ne_nil_of_target located)⟩

end ApiTrace
