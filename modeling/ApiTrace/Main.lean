import ApiTrace.CommandLine.Execution
import ApiTrace.CommandLine.Places

/-!
# The program

The thin layer around `CommandLine.run`: it copies the places of an invocation from the file system
into a workspace, runs the invocation there, and copies the changes back. Files are replaced by
renaming, so none is ever half written.
-/

namespace ApiTrace.Program

/-- The name of a location in the file system. -/
def absolute (location : Location) : String :=
  "/" ++ String.intercalate "/" location

/-- The names directly inside a directory. -/
def namesIn (location : Location) : IO (List String) := do
  let entries ← ((← IO.currentDir) / absolute location).readDir
  return entries.toList.map fun entry => entry.fileName

/-- What stands at a location of the file system. -/
def probe (location : Location) : IO (Option Node) := do
  try
    return some (.file (← IO.FS.readBinFile (absolute location)))
  catch _ =>
    try
      let _ ← namesIn location
      return some .directory
    catch _ => return none

/-- Copy what stands at a location. -/
def copy (workspace : Workspace) (location : Location) : IO Workspace := do
  match ← probe location with
  | some node => return workspace.put location node
  | none => return workspace

/-- Copy the headers directly inside a location, if it is a directory. -/
def copyHeaders (workspace : Workspace) (location : Location) : IO Workspace := do
  match workspace.node? location with
  | some .directory =>
    let names := (← namesIn location).filter Workspace.isHeaderName
    names.foldlM (fun workspace name => copy workspace (location ++ [name])) workspace
  | _ => return workspace

/-- Copy what stands along some steps and, at their end, the headers directly inside. -/
def survey (workspace : Workspace) (location : Location) : List Step → IO Workspace
  | [] => copyHeaders workspace location
  | .up :: steps => survey workspace location.dropLast steps
  | .down name :: steps => do
    let next := location ++ [name]
    match ← probe next with
    | some node => survey (workspace.put next node) next steps
    | none => return workspace

/-- Copy what stands along some paths. -/
def surveyAll (workspace : Workspace) (paths : List Path) : IO Workspace :=
  paths.foldlM (fun workspace path => survey workspace (workspace.startOf path) path.steps)
    workspace

/-- The workspace of an invocation. -/
def gather (directory : Path) (invocation : CommandLine.Invocation) : IO Workspace := do
  let start ← survey ⟨[], []⟩ [] directory.steps
  let current := directory.steps.filterMap fun step =>
    match step with
    | .down name => some name
    | .up => none
  let place := invocation.configurationPlace directory
  let workspace ← surveyAll { start with current := current } [place]
  let configuration :=
    (Configuration.discover workspace directory invocation.configuration none).outcome
  surveyAll workspace (invocation.command.places (configuration.toOption.getD {}))

/-- Replace a file. -/
def replace (location : Location) (bytes : ByteArray) : IO Unit := do
  let temporary := absolute location ++ ".part"
  IO.FS.writeBinFile temporary bytes
  IO.FS.rename temporary (absolute location)

/-- Copy the changes back. -/
def publish (before after : Workspace) : IO Unit := do
  for (location, node) in after.nodes do
    if before.node? location ≠ some node then
      match node with
      | .directory => IO.FS.createDir (absolute location)
      | .file bytes => replace location bytes
  for (location, _) in before.nodes do
    if (after.node? location).isNone then
      IO.FS.removeFile (absolute location)

/-- Run the program. -/
def run (arguments : List String) : IO CommandLine.Finished := do
  let directory : Path := ⟨(← IO.currentDir).toString⟩
  let environment ← IO.getEnv "TRACEGEN_CONFIG"
  let before ← match CommandLine.parse arguments environment with
    | .ok invocation => gather directory invocation
    | .error _ => pure ⟨[], []⟩
  let coloured ← (← IO.getStderr).isTty
  let (after, finished) := CommandLine.run arguments environment directory coloured before
  publish before after
  return finished

end ApiTrace.Program

/-- Print what a run leaves behind and end with its exit code. -/
def main (arguments : List String) : IO UInt32 := do
  let finished ← ApiTrace.Program.run arguments
  IO.print finished.output
  IO.eprint finished.complaints
  return UInt32.ofNat finished.exitCode
