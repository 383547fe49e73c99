import ApiTrace.Run.Draft

/-!
# Generating

A generating run first makes a draft, then stages all of its files, and only then moves them to
their places. The outdated lookups of an earlier run are removed last.
-/

namespace ApiTrace

/-- The path of lookups that are no longer up to date, if they are there. -/
def outdatedLookups (options : GenerateOptions) (workspace : Workspace) : Option Path :=
  if !options.regenerate && workspace.hasPath options.lookupChecks then some options.lookupChecks
  else none

/-- What is reported about a draft. -/
def Draft.report (draft : Draft) (options : GenerateOptions) (removed : Option Path) :
    GenerateReport where
  regenerated := options.regenerate
  categories := draft.categories
  files := draft.files.map fun file => ⟨file.destination, Digest.ofText file.contents⟩
  removed := removed

/-- The file of a report, if one is wanted. -/
def reportFiles (options : GenerateOptions) (report : GenerateReport) : List StagedFile :=
  (options.report.map fun path => (⟨path, report.toJson.render⟩ : StagedFile)).toList

/-- Remove the outdated lookups. -/
def removeOutdated : Option Path → Operation Unit
  | none => return ()
  | some path => do
    let _ ← .changing fun workspace => workspace.removeFile path
    .write .info ("removed stale " ++ path.text)

/-- Put the files of a draft into their places. -/
def publish (options : GenerateOptions) (draft : Draft) : Operation GenerateReport := do
  .changing fun workspace => workspace.stageAll draft.files
  let removed ← .reading fun workspace => return outdatedLookups options workspace
  let report := draft.report options removed
  let reported := reportFiles options report
  .changing fun workspace => workspace.stageAll reported
  let files := draft.files ++ reported
  .changing fun workspace => workspace.commit files
  .writeAll .debug (files.map fun file => "wrote " ++ file.destination.text)
  removeOutdated removed
  .write .info
    ("generated " ++ Text.showNat files.length ++ " files in " ++ options.outDirectory.text)
  return report

/-- Generate all files of a configuration. -/
def generate (configuration : Configuration) (options : GenerateOptions) :
    Operation GenerateReport := do
  let draft ← .reading (makeDraft configuration options)
  publish options draft

end ApiTrace
