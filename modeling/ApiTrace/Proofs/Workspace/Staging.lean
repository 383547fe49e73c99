import ApiTrace.Proofs.Sequence
import ApiTrace.Proofs.Workspace.Directories

/-!
# Moving staged files

A destination can be reached exactly if its path leads to a place where no directory stands. Moving
a file there changes no directory, so every destination stays where it was when all files were set
aside, and a commit that moved some of the files leaves the last text for every place among them.
The commit moves all files or those before the first that cannot be moved.
-/

namespace ApiTrace

namespace Workspace

/-! ## Destinations -/

/-- A path is a destination if it leads to a place without a directory and does not itself ask for
one. -/
theorem target_eq_ok_iff {workspace : Workspace} {path : Path} {location : Location} :
    workspace.target path = .ok location ↔
      path.hasZeroByte = false ∧ path.needsDirectory = false ∧
        workspace.locate path = .ok location ∧ workspace.node? location ≠ some .directory := by
  unfold target
  cases path.hasZeroByte with
  | true => simp [bind, Except.bind, throw, throwThe, MonadExceptOf.throw]
  | false =>
      cases workspace.locate path with
      | error fault => simp [bind, Except.bind]
      | ok place =>
          simp only [bind, Except.bind, Bool.false_eq_true, if_false, Except.ok.injEq, true_and]
          constructor
          · intro reached
            split at reached
            · split at reached <;> contradiction
            · rename_i stands
              split at reached
              · contradiction
              · rename_i bare
                cases reached
                rw [stands]
                exact ⟨Bool.eq_false_iff.mpr bare, rfl, nofun⟩
            · rename_i stands
              split at reached
              · contradiction
              · rename_i bare
                cases reached
                rw [stands]
                exact ⟨Bool.eq_false_iff.mpr bare, rfl, nofun⟩
          · rintro ⟨bare, rfl, free⟩
            split
            · rename_i stands
              exact absurd stands free
            · simp [bare]
            · simp [bare]

/-- The root is no destination. -/
theorem ne_nil_of_target {workspace : Workspace} {path : Path} {location : Location}
    (reached : workspace.target path = .ok location) : location ≠ [] := by
  rintro rfl
  exact (target_eq_ok_iff.mp reached).2.2.2 rfl

/-- A file that is there can be replaced. -/
theorem target_of_find {workspace : Workspace} {path : Path} {location : Location}
    {bytes : ByteArray} (found : workspace.find path = .ok (location, .file bytes)) :
    workspace.target path = .ok location := by
  obtain ⟨located, stands, named⟩ := find_eq_ok_iff.mp found
  refine target_eq_ok_iff.mpr ⟨?_, named.resolve_left (by simp), located, by simp [stands]⟩
  have accepted := (locate_eq_ok_iff.mp located).1
  unfold refusal? at accepted
  split at accepted
  · contradiction
  · rename_i clean
    exact Bool.eq_false_iff.mpr clean

/-- The text of the last of some files whose destination lies at a location. -/
def lastText? (workspace : Workspace) (files : List StagedFile) (location : Location) :
    Option String :=
  (files.reverse.find? fun file =>
    (workspace.target file.destination).toOption = some location).map StagedFile.contents

theorem lastText?_append_singleton (workspace : Workspace) (files : List StagedFile)
    (file : StagedFile) (location : Location) :
    workspace.lastText? (files ++ [file]) location =
      if (workspace.target file.destination).toOption = some location then some file.contents
      else workspace.lastText? files location := by
  unfold lastText?
  rw [List.reverse_append, List.reverse_singleton, List.singleton_append, List.find?_cons]
  split <;> rename_i reaches
  · rw [if_pos (of_decide_eq_true reaches)]
    rfl
  · rw [if_neg (of_decide_eq_false reaches)]

/-- A text stands for a file whose destination lies there. -/
theorem exists_mem_of_lastText? {workspace : Workspace} {files : List StagedFile}
    {location : Location} {text : String} (last : workspace.lastText? files location = some text) :
    ∃ file ∈ files, workspace.target file.destination = .ok location ∧ file.contents = text := by
  obtain ⟨file, found, contents⟩ := Option.map_eq_some_iff.mp last
  have reached : (workspace.target file.destination).toOption = some location := by
    simpa using List.find?_some found
  exact ⟨file, List.mem_reverse.mp (List.mem_of_find?_eq_some found),
    toOption_eq_some_iff.mp reached, contents⟩

/-- The text of a file is the last for its place if no later file goes there. -/
theorem lastText?_eq_some {workspace : Workspace} {earlier later : List StagedFile}
    {file : StagedFile} {location : Location}
    (reached : workspace.target file.destination = .ok location)
    (elsewhere : ∀ other ∈ later, workspace.target other.destination ≠ .ok location) :
    workspace.lastText? (earlier ++ file :: later) location = some file.contents := by
  have laterElsewhere : later.reverse.find? (fun other =>
      (workspace.target other.destination).toOption = some location) = none := by
    rw [List.find?_eq_none]
    intro other member here
    exact elsewhere other (List.mem_reverse.mp member)
      (toOption_eq_some_iff.mp (of_decide_eq_true here))
  have here : decide ((workspace.target file.destination).toOption = some location) = true :=
    decide_eq_true (toOption_eq_some_iff.mpr reached)
  unfold lastText?
  rw [List.reverse_append, List.reverse_cons, List.append_assoc, List.find?_append, laterElsewhere,
    Option.none_or, List.singleton_append]
  simp only [List.find?_cons, here, Option.map_some]

/-! ## Moving files -/

/-- Files were moved to their destinations, the later over the earlier, and nothing else has
changed. -/
structure Moved (before after : Workspace) (files : List StagedFile) : Prop where
  current : after.current = before.current
  reached : ∀ file ∈ files, ∃ location, before.target file.destination = .ok location
  node? : ∀ location, after.node? location =
    match before.lastText? files location with
    | some text => some (.file text.toUTF8)
    | none => before.node? location

namespace Moved

variable {before after : Workspace} {files : List StagedFile}

theorem nil (workspace : Workspace) : Moved workspace workspace [] :=
  ⟨rfl, nofun, fun _ => rfl⟩

/-- A destination is never a place where a directory stands. -/
theorem lastText?_eq_none (location : Location)
    (stands : before.node? location = some .directory) :
    before.lastText? files location = none := by
  cases last : before.lastText? files location with
  | none => rfl
  | some text =>
      obtain ⟨file, _, reached, _⟩ := exists_mem_of_lastText? last
      exact absurd stands (Workspace.target_eq_ok_iff.mp reached).2.2.2

/-- Directories stand where they stood before, and nowhere else. -/
theorem directory_iff (moved : Moved before after files) (location : Location) :
    after.node? location = some .directory ↔ before.node? location = some .directory := by
  rw [moved.node? location]
  split
  · rename_i last
    constructor
    · intro stands
      simp at stands
    · intro stands
      rw [lastText?_eq_none location stands] at last
      contradiction
  · rfl

theorem keepsDirectories (moved : Moved before after files) : KeepsDirectories before after :=
  ⟨moved.current, fun place => (moved.directory_iff place).mpr⟩

theorem locate_eq_ok_iff (moved : Moved before after files) {path : Path} {location : Location} :
    after.locate path = .ok location ↔ before.locate path = .ok location :=
  ⟨KeepsDirectories.locate_eq_ok ⟨moved.current.symm, fun place => (moved.directory_iff place).mp⟩,
    moved.keepsDirectories.locate_eq_ok⟩

/-- Where no file was moved to, everything is as it was. -/
theorem node?_of_elsewhere (moved : Moved before after files) {location : Location}
    (elsewhere : ∀ file ∈ files, before.target file.destination ≠ .ok location) :
    after.node? location = before.node? location := by
  rw [moved.node? location]
  cases last : before.lastText? files location with
  | none => rfl
  | some text =>
      obtain ⟨file, member, reached, _⟩ := exists_mem_of_lastText? last
      exact absurd reached (elsewhere file member)

/-- Every destination stays where it was. -/
theorem target_eq_ok_iff (moved : Moved before after files) {path : Path} {location : Location} :
    after.target path = .ok location ↔ before.target path = .ok location := by
  rw [Workspace.target_eq_ok_iff, Workspace.target_eq_ok_iff, moved.locate_eq_ok_iff, ne_eq, ne_eq,
    moved.directory_iff]

/-- One more file is moved. -/
theorem append_singleton (moved : Moved before after files) {file : StagedFile}
    {location : Location} (reached : after.target file.destination = .ok location) :
    Moved before (after.put location (.file file.contents.toUTF8)) (files ++ [file]) where
  current := moved.current
  reached other member := by
    rcases List.mem_append.mp member with member | member
    · exact moved.reached other member
    · rw [List.mem_singleton.mp member]
      exact ⟨location, moved.target_eq_ok_iff.mp reached⟩
  node? other := by
    have reachedBefore := moved.target_eq_ok_iff.mp reached
    have notRoot := ne_nil_of_target reached
    rw [lastText?_append_singleton, reachedBefore]
    by_cases same : other = location
    · subst same
      rw [node?_put_self after notRoot, if_pos (by rfl)]
    · have elsewhere : ¬ (Except.ok location : Except FileFault Location).toOption = some other :=
        fun here => same (Except.ok.inj (toOption_eq_some_iff.mp here)).symm
      rw [node?_put_of_ne after same, if_neg elsewhere]
      exact moved.node? other

/-- Every file was there before, or it is one that was moved. -/
theorem file (moved : Moved before after files) {location : Location} {bytes : ByteArray}
    (stands : after.node? location = some (.file bytes)) :
    before.node? location = some (.file bytes) ∨
      ∃ file ∈ files, before.target file.destination = .ok location ∧
        file.contents.toUTF8 = bytes := by
  rw [moved.node? location] at stands
  cases last : before.lastText? files location with
  | none =>
      rw [last] at stands
      exact .inl stands
  | some text =>
      rw [last] at stands
      obtain ⟨file, member, reached, rfl⟩ := exists_mem_of_lastText? last
      exact .inr ⟨file, member, reached, Node.file.inj (Option.some.inj stands)⟩

/-- A directory that was there still is. -/
theorem find_directory (moved : Moved before after files) {path : Path} {location : Location}
    (found : before.find path = .ok (location, .directory)) :
    after.find path = .ok (location, .directory) := by
  obtain ⟨located, stands, _⟩ := find_eq_ok_iff.mp found
  exact find_eq_ok_iff.mpr
    ⟨moved.locate_eq_ok_iff.mpr located, (moved.directory_iff location).mpr stands, .inl rfl⟩

/-- Where a file was there still is one. -/
theorem exists_find_file (moved : Moved before after files) {path : Path} {location : Location}
    {bytes : ByteArray} (found : before.find path = .ok (location, .file bytes)) :
    ∃ bytes, after.find path = .ok (location, .file bytes) := by
  obtain ⟨located, stands, named⟩ := find_eq_ok_iff.mp found
  have standsAfter : ∃ bytes, after.node? location = some (.file bytes) := by
    rw [moved.node? location]
    split
    · exact ⟨_, rfl⟩
    · exact ⟨bytes, stands⟩
  obtain ⟨bytes, standsAfter⟩ := standsAfter
  exact ⟨bytes, find_eq_ok_iff.mpr
    ⟨moved.locate_eq_ok_iff.mpr located, standsAfter, .inr (named.resolve_left (by simp))⟩⟩

/-- A destination holds the last text that was moved to its place. -/
theorem find_file (moved : Moved before after files) {path : Path} {location : Location}
    (reached : before.target path = .ok location) {text : String}
    (last : before.lastText? files location = some text) :
    after.find path = .ok (location, .file text.toUTF8) := by
  obtain ⟨_, bare, located, _⟩ := Workspace.target_eq_ok_iff.mp reached
  have stands : after.node? location = some (.file text.toUTF8) := by
    rw [moved.node? location, last]
  exact find_eq_ok_iff.mpr ⟨moved.locate_eq_ok_iff.mpr located, stands, .inr bare⟩

theorem readText (moved : Moved before after files) {path : Path} {location : Location}
    (reached : before.target path = .ok location) {text : String}
    (last : before.lastText? files location = some text) : after.readText path = .ok text :=
  readText_of_find (moved.find_file reached last)

end Moved

theorem moveInto_eq_ok_iff {workspace after : Workspace} {file : StagedFile} :
    workspace.moveInto file = .ok after ↔
      ∃ location, workspace.target file.destination = .ok location ∧
        workspace.put location (.file file.contents.toUTF8) = after := by
  unfold moveInto
  cases workspace.target file.destination with
  | error fault => simp [Except.map]
  | ok location => simp [Except.map]

theorem moveInto_eq_error_iff {workspace : Workspace} {file : StagedFile} {error : AccessError} :
    workspace.moveInto file = .error error ↔
      ∃ fault, workspace.target file.destination = .error fault ∧
        ⟨.writeFile, file.destination, fault⟩ = error := by
  unfold moveInto
  cases workspace.target file.destination with
  | error fault => simp [Except.map]
  | ok location => simp [Except.map]

/-- How a commit ends: all files are moved, or those before the first whose destination is refused.
-/
inductive Committed (staged : Workspace) (files : List StagedFile) :
    Workspace → Except AccessError Unit → Prop where
  | complete {after : Workspace} (moved : Moved staged after files) :
      Committed staged files after (.ok ())
  | stopped {after : Workspace} {before later : List StagedFile} {file : StagedFile}
      {fault : FileFault} (split : files = before ++ file :: later)
      (moved : Moved staged after before)
      (refused : after.target file.destination = .error fault) :
      Committed staged files after (.error ⟨.writeFile, file.destination, fault⟩)

private theorem committed_commit_of_moved {staged between : Workspace}
    (before files : List StagedFile)
    (moved : Moved staged between before) :
    Committed staged (before ++ files) (between.commit files).1 (between.commit files).2 := by
  induction files generalizing between before with
  | nil =>
      rw [List.append_nil]
      exact .complete moved
  | cons file files ih =>
      rw [commit]
      cases ended : between.moveInto file with
      | error error =>
          obtain ⟨fault, refused, rfl⟩ := moveInto_eq_error_iff.mp ended
          exact .stopped rfl moved refused
      | ok next =>
          obtain ⟨location, reached, rfl⟩ := moveInto_eq_ok_iff.mp ended
          have rest := ih (before ++ [file]) (moved.append_singleton reached)
          rw [List.append_assoc] at rest
          exact rest

theorem committed_commit (staged : Workspace) (files : List StagedFile) :
    Committed staged files (staged.commit files).1 (staged.commit files).2 :=
  committed_commit_of_moved [] files (.nil staged)

end Workspace

end ApiTrace
