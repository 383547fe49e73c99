/-!
# Paths

A path is a text whose parts stand between slashes. The text is kept as it was given, because
messages show it; what it means is the list of its steps.
-/

namespace ApiTrace

/-- A path as it was given. -/
structure Path where
  text : String
  deriving DecidableEq, Repr

/-- One step of the way along a path. -/
inductive Step where
  /-- To the parent directory. -/
  | up
  /-- To the entry of this name. -/
  | down (name : String)
  deriving DecidableEq, Repr

namespace Path

/-- The parts of a path between its slashes, empty ones included. -/
def parts (path : Path) : List (List Char) :=
  path.text.toList.splitOn '/'

/-- Whether the way starts at the root. -/
def isAbsolute (path : Path) : Bool :=
  ['/'].isPrefixOf path.text.toList

/-- The step of a part; empty parts and single dots are none. -/
def step? (part : List Char) : Option Step :=
  if part = [] ∨ part = ['.'] then none
  else if part = ['.', '.'] then some .up
  else some (.down (String.ofList part))

/-- The steps of a path. -/
def steps (path : Path) : List Step :=
  path.parts.filterMap step?

/-- Whether the path can only name a directory: it ends with a slash or a dot part. -/
def needsDirectory (path : Path) : Bool :=
  match path.parts.getLast? with
  | some part => part == [] || part == ['.']
  | none => false

/-- Whether the path ends in a name, perhaps with slashes behind it. -/
def endsInName (path : Path) : Bool :=
  match (path.parts.filter fun part => part != []).getLast? with
  | some part => part != ['.'] && part != ['.', '.']
  | none => false

/-- Whether a zero byte stands in the path, which no name can have. -/
def hasZeroByte (path : Path) : Bool :=
  path.text.toList.contains '\x00'

/-- Whether the path as a whole is longer than any access allows. -/
def isOverlong (path : Path) : Bool :=
  path.text.utf8ByteSize > 4095

/-- Whether a name is longer than any entry of a directory. -/
def isOverlongName (name : String) : Bool :=
  name.utf8ByteSize > 255

/-- A path below a directory. An absolute path stays as it is. -/
def join (directory path : Path) : Path :=
  if path.isAbsolute || directory.text.isEmpty then path
  else if directory.text.toList.getLast? = some '/' then ⟨directory.text ++ path.text⟩
  else ⟨directory.text ++ "/" ++ path.text⟩

/-- Whether a part counts towards the length of a path. A dot counts in the first place only. -/
def counts (index : Nat) (part : List Char) : Bool :=
  part != [] && (part != ['.'] || index == 0)

/-- The texts of the path cut after each of its counting parts. -/
def cuts (path : Path) : List (List Char) :=
  path.parts.zipIdx.filterMap fun (part, index) =>
    if counts index part then some (['/'].intercalate (path.parts.take (index + 1))) else none

/-- The path without its last part. -/
def parent? (path : Path) : Option Path :=
  match path.cuts.reverse with
  | [] => none
  | [_] => some ⟨if path.isAbsolute then "/" else ""⟩
  | _ :: parent :: _ => some ⟨String.ofList parent⟩

/-- The last part of a path, unless it is a step to the parent or a single dot. -/
def fileName? (path : Path) : Option String :=
  match (path.parts.zipIdx.filter fun (part, index) => counts index part).getLast? with
  | some (part, _) => match step? part with
    | some (.down name) => some name
    | _ => none
  | none => none

/-- What follows the last dot of a file name that does not only start with one. -/
def fileEnding? (name : String) : Option String :=
  let reversed := name.toList.reverse
  match reversed.dropWhile fun c => c != '.' with
  | _ :: _ :: _ => some (String.ofList (reversed.takeWhile fun c => c != '.').reverse)
  | _ => none

end Path

end ApiTrace
