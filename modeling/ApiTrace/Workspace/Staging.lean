import ApiTrace.Workspace.Access

/-!
# Staged files

New file contents are first staged: their directories are created and the contents are set aside.
Committing then moves them onto their destinations one after the other, so that no file is ever half
written; it stops at the first destination that cannot be replaced.
-/

namespace ApiTrace

/-- Contents that wait for their destination. -/
structure StagedFile where
  destination : Path
  contents : String
  deriving DecidableEq, Repr

/-- The directory in which contents for a destination are set aside. -/
def StagedFile.directory (file : StagedFile) : Path :=
  match file.destination.parent? with
  | some parent => if parent.text.isEmpty then ⟨"."⟩ else parent
  | none => ⟨"."⟩

namespace Workspace

/-- Whether a directory is so far from the root that a fresh name of ten characters in it makes too
long a path. -/
def isRemote (workspace : Workspace) (directory : Path) : Bool :=
  let start : Path := ⟨"/" ++ String.intercalate "/" workspace.current⟩
  ((start.join directory).join ⟨"0123456789"⟩).isOverlong

/-- Set contents aside: only directories are created. -/
def stage (workspace : Workspace) (file : StagedFile) : Workspace × Except AccessError Unit :=
  match workspace.ensureDirectory file.directory with
  | (after, .error error) => (after, .error error)
  | (after, .ok ()) =>
    if after.isRemote file.directory then
      (after, .error ⟨.createTemporary, file.directory, .tooLong⟩)
    else match after.find file.directory with
    | .ok (_, .directory) => (after, .ok ())
    | .ok (_, .file _) => (after, .error ⟨.createTemporary, file.directory, .notDirectory⟩)
    | .error fault => (after, .error ⟨.createTemporary, file.directory, fault⟩)

/-- Set aside several contents, up to the first that cannot be. -/
def stageAll (workspace : Workspace) : List StagedFile → Workspace × Except AccessError Unit
  | [] => (workspace, .ok ())
  | file :: files =>
    match workspace.stage file with
    | (after, .error error) => (after, .error error)
    | (after, .ok ()) => after.stageAll files

/-- Where a destination lies, unless nothing can be moved there. Only a path that ends in a name can
be a destination. -/
def target (workspace : Workspace) (path : Path) : Except FileFault Location := do
  if path.hasZeroByte then throw .invalid
  let location ← workspace.locate path
  match workspace.node? location with
  | some .directory =>
    if path.endsInName then
      .error (if path.needsDirectory then .notDirectory else .isDirectory)
    else .error .busy
  | some (.file _) => if path.needsDirectory then .error .notDirectory else .ok location
  | none =>
    if path.needsDirectory then .error (if path.endsInName then .notDirectory else .missing)
    else .ok location

/-- Move contents onto their destination. -/
def moveInto (workspace : Workspace) (file : StagedFile) : Except AccessError Workspace :=
  (report .writeFile file.destination (workspace.target file.destination)).map fun location =>
    workspace.put location (.file file.contents.toUTF8)

/-- Move staged contents onto their destinations, up to the first that fails. -/
def commit (workspace : Workspace) : List StagedFile → Workspace × Except AccessError Unit
  | [] => (workspace, .ok ())
  | file :: files =>
    match workspace.moveInto file with
    | .error error => (workspace, .error error)
    | .ok after => after.commit files

end Workspace

end ApiTrace
