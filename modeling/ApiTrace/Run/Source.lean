import ApiTrace.Configuration.Reading
import ApiTrace.Header.Basic
import ApiTrace.Identity.IdFile
import ApiTrace.Run.Operation

/-!
# Sources of a run

What a run reads from a workspace: headers, shipped numbers, and its configuration. A configuration
file that is asked for must exist; the one in the working directory may be absent, but if it is
there it must describe a configuration.
-/

namespace ApiTrace

namespace Workspace

/-- The header at a path. -/
def openHeader (workspace : Workspace) (path : Path) : Except ScanError Header :=
  match workspace.readText path with
  | .ok text => .ok (.ofText (path.fileName?.getD path.text) text)
  | .error fault => .error (.unreadable path.text fault)

/-- The shipped numbers at a path, unless nothing is there. -/
def loadIds (workspace : Workspace) (path : Path) : Except IdError (Option IdMap) :=
  if workspace.hasPath path then
    match workspace.readText path with
    | .ok text => (IdMap.parse path.text text).map some
    | .error fault => .error (.unreadable path.text fault)
  else .ok none

/-- The shipped numbers at a path where they must be. -/
def needIds (workspace : Workspace) (path : Path) : Except IdError IdMap := do
  match ← workspace.loadIds path with
  | some map => return map
  | none => .error (.missingFile path.text)

/-- The headers directly inside a directory. -/
def openHeaders (workspace : Workspace) (directory : Path) : Except RunError (List Header) := do
  let paths ← (workspace.headerFiles directory).mapError RunError.access
  (paths.mapM workspace.openHeader).mapError RunError.scan

end Workspace

namespace Configuration

/-- The configuration in a file. -/
def load (workspace : Workspace) (path : Path) : Except RunError Configuration :=
  match workspace.readText path with
  | .error fault => .error (.access ⟨.readConfig, path, fault⟩)
  | .ok text => (parse text).mapError (RunError.malformedConfiguration path)

/-- The name of the configuration file in a working directory. -/
def fileName : Path := ⟨"tracegen.toml"⟩

/-- The configuration of a run: that of the file asked for, else of the file named by the
environment, else of the file in the working directory if it is there, else the default. -/
def discover (workspace : Workspace) (directory : Path) (requested fromEnvironment : Option Path) :
    Journalled RunError Configuration :=
  match requested.or fromEnvironment with
  | some path => load workspace path
  | none =>
    let path := directory.join fileName
    if workspace.hasPath path then load workspace path
    else do
      .write .debug ("no config file at " ++ path.text ++ ", using defaults")
      return {}

end Configuration

end ApiTrace
