import ApiTrace.Workspace.Fault
import ApiTrace.Workspace.Path

/-!
# Workspaces

A workspace is a tree of directories and files as a finite map from locations to nodes, with the
directory from which relative paths start. Reading never changes it; `put` and `erase` change one
location.
-/

namespace ApiTrace

/-- The names on the way from the root. -/
abbrev Location := List String

/-- What stands at a location. -/
inductive Node where
  | directory
  | file (bytes : ByteArray)

instance : DecidableEq Node
  | .directory, .directory => isTrue rfl
  | .directory, .file _ => isFalse nofun
  | .file _, .directory => isFalse nofun
  | .file left, .file right =>
    if same : left.data = right.data then isTrue (congrArg Node.file (ByteArray.ext same))
    else isFalse fun equal => same (congrArg ByteArray.data (Node.file.inj equal))

/-- A tree of directories and files. -/
structure Workspace where
  /-- What stands where; the root needs no entry. -/
  nodes : List (Location × Node)
  /-- Where relative paths start. -/
  current : Location

namespace Workspace

/-- What stands at a location. The root is a directory. -/
def node? (workspace : Workspace) (location : Location) : Option Node :=
  if location = [] then some .directory else workspace.nodes.lookup location

/-- Replace the node of a location, or add it. -/
def putNode (location : Location) (node : Node) :
    List (Location × Node) → List (Location × Node)
  | [] => [(location, node)]
  | (other, kept) :: nodes =>
    if other = location then (location, node) :: nodes
    else (other, kept) :: putNode location node nodes

/-- Put a node at a location. -/
def put (workspace : Workspace) (location : Location) (node : Node) : Workspace :=
  { workspace with nodes := putNode location node workspace.nodes }

/-- Remove the node of a location. -/
def erase (workspace : Workspace) (location : Location) : Workspace :=
  { workspace with nodes := workspace.nodes.filter fun entry => entry.1 ≠ location }

theorem lookup_putNode_self (location : Location) (node : Node)
    (nodes : List (Location × Node)) :
    (putNode location node nodes).lookup location = some node := by
  induction nodes with
  | nil => simp [putNode]
  | cons entry nodes ih =>
    simp only [putNode]
    split
    · simp
    · rename_i different
      rw [List.lookup_cons, beq_eq_false_iff_ne.2 (Ne.symm different)]
      exact ih

theorem lookup_putNode_of_ne {location other : Location} (different : other ≠ location)
    (node : Node) (nodes : List (Location × Node)) :
    (putNode location node nodes).lookup other = nodes.lookup other := by
  induction nodes with
  | nil => simp [putNode, different]
  | cons entry nodes ih =>
    simp only [putNode]
    split
    · rename_i same
      rw [List.lookup_cons, List.lookup_cons, same]
      simp only [beq_eq_false_iff_ne.2 different]
    · rw [List.lookup_cons, List.lookup_cons, ih]

/-- Reading a location after a change of it. -/
theorem node?_put_self (workspace : Workspace) {location : Location} (notRoot : location ≠ [])
    (node : Node) : (workspace.put location node).node? location = some node := by
  simp [node?, put, notRoot, lookup_putNode_self]

/-- Reading another location after a change. -/
theorem node?_put_of_ne (workspace : Workspace) {location other : Location}
    (different : other ≠ location) (node : Node) :
    (workspace.put location node).node? other = workspace.node? other := by
  simp [node?, put, lookup_putNode_of_ne different]

theorem lookup_filter_of_ne {location other : Location} (different : other ≠ location)
    (nodes : List (Location × Node)) :
    (nodes.filter fun entry => entry.1 ≠ location).lookup other = nodes.lookup other := by
  induction nodes with
  | nil => rfl
  | cons entry nodes ih =>
      rw [List.filter_cons, List.lookup_cons]
      by_cases here : entry.1 = location
      · have skipped : (other == entry.1) = false := by
          rw [here]
          exact beq_eq_false_iff_ne.mpr different
        rw [if_neg (by simpa using here), ih, skipped]
      · rw [if_pos (by simpa using here), List.lookup_cons, ih]

/-- Reading a location after its node is removed. -/
theorem node?_erase_self (workspace : Workspace) {location : Location} (notRoot : location ≠ []) :
    (workspace.erase location).node? location = none := by
  rw [node?, if_neg notRoot, erase, List.lookup_eq_none_iff]
  intro entry member
  have kept : entry.1 ≠ location := of_decide_eq_true (List.mem_filter.mp member).2
  exact bne_iff_ne.mpr kept.symm

/-- Reading another location after a node is removed. -/
theorem node?_erase_of_ne (workspace : Workspace) {location other : Location}
    (different : other ≠ location) :
    (workspace.erase location).node? other = workspace.node? other := by
  rw [node?, node?, erase, lookup_filter_of_ne different]

/-- The location at the end of some steps. All locations on the way, but not the last, must be
directories, and no name may be too long. -/
def walk (workspace : Workspace) (location : Location) : List Step → Except FileFault Location
  | [] => .ok location
  | step :: steps =>
    match workspace.node? location with
    | none => .error .missing
    | some (.file _) => .error .notDirectory
    | some .directory =>
      match step with
      | .up => workspace.walk location.dropLast steps
      | .down name =>
        if Path.isOverlongName name then .error .tooLong
        else workspace.walk (location ++ [name]) steps

/-- Where a path starts. -/
def startOf (workspace : Workspace) (path : Path) : Location :=
  if path.isAbsolute then [] else workspace.current

/-- Why a path is refused whatever stands in the workspace. -/
def refusal? (path : Path) : Option FileFault :=
  if path.hasZeroByte then some .zeroByte
  else if path.text.isEmpty then some .missing
  else if path.isOverlong then some .tooLong
  else none

/-- The location of a path, whether something stands there or not. -/
def locate (workspace : Workspace) (path : Path) : Except FileFault Location :=
  match refusal? path with
  | some fault => .error fault
  | none => workspace.walk (workspace.startOf path) path.steps

/-- The location of a path with what stands there. -/
def find (workspace : Workspace) (path : Path) : Except FileFault (Location × Node) := do
  let location ← workspace.locate path
  match workspace.node? location with
  | none => .error .missing
  | some .directory => .ok (location, .directory)
  | some (.file bytes) =>
    if path.needsDirectory then .error .notDirectory else .ok (location, .file bytes)

/-- Whether something stands at a path. -/
def hasPath (workspace : Workspace) (path : Path) : Bool :=
  (workspace.find path).toBool

/-- The bytes of a file. -/
def readBytes (workspace : Workspace) (path : Path) : Except FileFault ByteArray := do
  match ← workspace.find path with
  | (_, .file bytes) => .ok bytes
  | (_, .directory) => .error .isDirectory

/-- The text of a file. -/
def readText (workspace : Workspace) (path : Path) : Except FileFault String := do
  match String.fromUTF8? (← workspace.readBytes path) with
  | some text => .ok text
  | none => .error .notText

/-- The names directly inside a location, with what stands there. -/
def children (workspace : Workspace) (location : Location) : List (String × Node) :=
  workspace.nodes.filterMap fun (place, node) =>
    match place.getLast? with
    | some name => if place = location ++ [name] then some (name, node) else none
    | none => none

/-- Create the directories along some steps. What was created stays when a later step fails. If the
path is not `named`, a dot follows its last name, which must then be there already. A file that is
met stands where a directory is to be created if it comes last, or if a directory before it was
`created`; otherwise it is on the way. -/
def createAlong (workspace : Workspace) (named created : Bool) (location : Location) :
    List Step → Workspace × Except FileFault Unit
  | [] => (workspace, .ok ())
  | .up :: steps => workspace.createAlong named created location.dropLast steps
  | .down name :: steps =>
    let next := location ++ [name]
    let isPlace := if steps.isEmpty then named else created
    if Path.isOverlongName name then (workspace, .error .tooLong)
    else match workspace.node? next with
    | some .directory => workspace.createAlong named created next steps
    | some (.file _) => (workspace, .error (if isPlace then .occupied else .notDirectory))
    | none =>
      if steps.isEmpty && !named then (workspace, .error .missing)
      else (workspace.put next .directory).createAlong named true next steps

end Workspace

end ApiTrace
