import ApiTrace.Workspace.Basic

/-!
# Access to files

Reading, listing, creating and removing, with errors that say what was tried on which path.
-/

namespace ApiTrace

/-- What was tried on a path. -/
inductive FileAction where
  | readConfig
  | createDirectory
  | readFile
  | removeFile
  | listDirectory
  | createTemporary
  | writeFile
  deriving DecidableEq, Repr

/-- What is said about an action that failed, up to the path. -/
def FileAction.complaint : FileAction → String
  | .readConfig => "failed to read config file: "
  | .createDirectory => "failed to create directory: "
  | .readFile => "failed to read file: "
  | .removeFile => "failed to remove file: "
  | .listDirectory => "failed to list directory: "
  | .createTemporary => "failed to create temporary file in "
  | .writeFile => "failed to write file: "

/-- An access that failed. -/
structure AccessError where
  action : FileAction
  path : Path
  fault : FileFault
  deriving DecidableEq, Repr

namespace AccessError

/-- What failed. -/
def message (error : AccessError) : String :=
  error.action.complaint ++ error.path.text

/-- Why it failed, from the outer to the inner reason. -/
def causes (error : AccessError) : List String :=
  let fault := error.fault.message
  match error.action with
  | .listDirectory => ["IO error for operation on " ++ error.path.text ++ ": " ++ fault, fault]
  | .writeFile => ["failed to persist temporary file: " ++ fault, fault]
  | _ => [fault]

end AccessError

namespace Workspace

/-- Name an action and its path in a fault. -/
def report {α : Type} (action : FileAction) (path : Path) (result : Except FileFault α) :
    Except AccessError α :=
  result.mapError fun fault => ⟨action, path, fault⟩

@[simp]
theorem report_ok {α : Type} (action : FileAction) (path : Path) (value : α) :
    report action path (.ok value) = .ok value := rfl

@[simp]
theorem report_error {α : Type} (action : FileAction) (path : Path) (fault : FileFault) :
    report action path (.error fault : Except FileFault α) = .error ⟨action, path, fault⟩ := rfl

/-- Make sure that something stands at a path: create it as a directory, with its parents, if
nothing does. -/
def ensureDirectory (workspace : Workspace) (path : Path) :
    Workspace × Except AccessError Unit :=
  if workspace.hasPath path || path.text.isEmpty then (workspace, .ok ())
  else
    let (after, result) := match refusal? path with
      | some fault => (workspace, .error fault)
      | none => workspace.createAlong path.endsInName false (workspace.startOf path) path.steps
    (after, report .createDirectory path result)

/-- The text of a file. -/
def fileText (workspace : Workspace) (path : Path) : Except AccessError String :=
  report .readFile path (workspace.readText path)

/-- Remove the file at a path. The answer says whether there was one. -/
def removeFile (workspace : Workspace) (path : Path) : Workspace × Except AccessError Bool :=
  match workspace.find path with
  | .error _ => (workspace, .ok false)
  | .ok (location, .file _) => (workspace.erase location, .ok true)
  | .ok (_, .directory) => (workspace, .error ⟨.removeFile, path, .isDirectory⟩)

/-- Whether a name is that of a C or C++ header. -/
def isHeaderName (name : String) : Bool :=
  Path.fileEnding? name = some "h" || Path.fileEnding? name = some "hpp"

/-- The headers directly inside a directory, by ascending name. -/
def headerFiles (workspace : Workspace) (directory : Path) : Except AccessError (List Path) := do
  match ← report .listDirectory directory (workspace.find directory) with
  | (_, .file _) => return []
  | (location, .directory) =>
    let names := (workspace.children location).filterMap fun (name, node) =>
      match node with
      | .file _ => if isHeaderName name then some name else none
      | .directory => none
    return (names.mergeSort fun left right => left ≤ right).map fun name =>
      directory.join ⟨name⟩

end Workspace

end ApiTrace
