import ApiTrace.Proofs.Sequence
import ApiTrace.Proofs.Workspace.Path
import ApiTrace.Workspace.Staging

/-!
# New directories

Setting contents aside creates the directories that are missing and changes nothing else, whether it
succeeds or stops on the way. Where a path leads depends only on where directories stand, so a
change that leaves them in place leads every path to where it led before.
-/

namespace ApiTrace

namespace Workspace

/-! ## Only directories are added -/

/-- Directories may have been added where nothing stood; nothing else has changed. -/
structure AddsDirectories (before after : Workspace) : Prop where
  current : after.current = before.current
  node? : ∀ location, after.node? location = before.node? location ∨
    before.node? location = none ∧ after.node? location = some .directory

namespace AddsDirectories

variable {before between after : Workspace}

theorem refl (workspace : Workspace) : AddsDirectories workspace workspace :=
  ⟨rfl, fun _ => .inl rfl⟩

theorem trans (first : AddsDirectories before between) (second : AddsDirectories between after) :
    AddsDirectories before after where
  current := second.current.trans first.current
  node? location := by
    rcases first.node? location with same | ⟨absent, created⟩
    · rw [← same]
      exact second.node? location
    · rcases second.node? location with same | ⟨gone, _⟩
      · exact .inr ⟨absent, same.trans created⟩
      · rw [created] at gone
        contradiction

/-- What stood somewhere still does. -/
theorem node?_eq_some (adds : AddsDirectories before after) {location : Location} {node : Node}
    (stood : before.node? location = some node) : after.node? location = some node := by
  rcases adds.node? location with same | ⟨absent, _⟩
  · exact same.trans stood
  · rw [stood] at absent
    contradiction

/-- Every file keeps its place and its content. -/
theorem file_iff (adds : AddsDirectories before after) (location : Location) (bytes : ByteArray) :
    after.node? location = some (.file bytes) ↔ before.node? location = some (.file bytes) := by
  rcases adds.node? location with same | ⟨absent, created⟩
  · rw [same]
  · rw [absent, created]
    simp

theorem put {location : Location} (absent : before.node? location = none) :
    AddsDirectories before (before.put location .directory) where
  current := rfl
  node? other := by
    have notRoot : location ≠ [] := by
      rintro rfl
      contradiction
    by_cases same : other = location
    · subst same
      exact .inr ⟨absent, node?_put_self before notRoot _⟩
    · exact .inl (node?_put_of_ne before same _)

end AddsDirectories

theorem createAlong_adds (workspace : Workspace) (named created : Bool) (location : Location)
    (steps : List Step) :
    AddsDirectories workspace (workspace.createAlong named created location steps).1 := by
  induction steps generalizing workspace created location with
  | nil => exact .refl workspace
  | cons step steps ih =>
      cases step with
      | up => exact ih workspace created location.dropLast
      | down name =>
          unfold createAlong
          dsimp only
          split
          · exact .refl workspace
          split
          · exact ih workspace created (location ++ [name])
          · exact .refl workspace
          · rename_i absent
            split
            · exact .refl workspace
            · exact (AddsDirectories.put absent).trans (ih _ true (location ++ [name]))

theorem ensureDirectory_adds (workspace : Workspace) (path : Path) :
    AddsDirectories workspace (workspace.ensureDirectory path).1 := by
  unfold ensureDirectory
  split
  · exact .refl workspace
  · cases refusal? path with
    | some fault => exact .refl workspace
    | none => exact createAlong_adds workspace _ _ _ _

/-- Setting contents aside only adds directories, also when it fails. -/
theorem stage_adds (workspace : Workspace) (file : StagedFile) :
    AddsDirectories workspace (workspace.stage file).1 := by
  have ensured := workspace.ensureDirectory_adds file.directory
  unfold stage
  generalize workspace.ensureDirectory file.directory = result at ensured
  obtain ⟨after, outcome⟩ := result
  cases outcome with
  | error fault => exact ensured
  | ok =>
      dsimp only at ensured ⊢
      split
      · exact ensured
      · split <;> exact ensured

theorem stageAll_nil (workspace : Workspace) : workspace.stageAll [] = (workspace, .ok ()) := rfl

theorem stageAll_cons (workspace : Workspace) (file : StagedFile) (files : List StagedFile) :
    workspace.stageAll (file :: files) = match workspace.stage file with
      | (after, .error error) => (after, .error error)
      | (after, .ok ()) => after.stageAll files := by
  with_unfolding_all rfl

theorem stageAll_adds (workspace : Workspace) (files : List StagedFile) :
    AddsDirectories workspace (workspace.stageAll files).1 := by
  induction files generalizing workspace with
  | nil =>
      rw [stageAll_nil]
      exact .refl workspace
  | cons file files ih =>
      have first := workspace.stage_adds file
      rw [stageAll_cons]
      generalize workspace.stage file = result at first
      obtain ⟨after, outcome⟩ := result
      cases outcome with
      | error fault => exact first
      | ok => exact first.trans (ih after)

/-! ## Where paths lead -/

/-- The directories of one workspace stand in another, where relative paths start at the same
place. -/
structure KeepsDirectories (before after : Workspace) : Prop where
  current : after.current = before.current
  directory : ∀ location,
    before.node? location = some .directory → after.node? location = some .directory

theorem AddsDirectories.keepsDirectories {before after : Workspace}
    (adds : AddsDirectories before after) : KeepsDirectories before after :=
  ⟨adds.current, fun _ => adds.node?_eq_some⟩

namespace KeepsDirectories

variable {before after : Workspace}

/-- Steps that led somewhere still lead there. -/
theorem walk_eq_ok (keeps : KeepsDirectories before after) {location reached : Location}
    {steps : List Step} (led : before.walk location steps = .ok reached) :
    after.walk location steps = .ok reached := by
  induction steps generalizing location with
  | nil => exact led
  | cons step steps ih =>
      obtain ⟨stands, fits, led⟩ := walk_cons_eq_ok_iff.mp led
      exact walk_cons_eq_ok_iff.mpr ⟨keeps.directory location stands, fits, ih led⟩

theorem locate_eq_ok (keeps : KeepsDirectories before after) {path : Path} {location : Location}
    (located : before.locate path = .ok location) : after.locate path = .ok location := by
  have start : after.startOf path = before.startOf path := by
    unfold startOf
    rw [keeps.current]
  obtain ⟨accepted, led⟩ := locate_eq_ok_iff.mp located
  rw [locate_eq_ok_iff, start]
  exact ⟨accepted, keeps.walk_eq_ok led⟩

/-- Removing what is no directory keeps the directories. -/
theorem erase {workspace : Workspace} {location : Location}
    (free : workspace.node? location ≠ some .directory) :
    KeepsDirectories workspace (workspace.erase location) where
  current := rfl
  directory other stands := by
    have different : other ≠ location := by
      rintro rfl
      exact free stands
    rw [node?_erase_of_ne workspace different, stands]

theorem trans {between : Workspace} (first : KeepsDirectories before between)
    (second : KeepsDirectories between after) : KeepsDirectories before after :=
  ⟨second.current.trans first.current, fun place stands =>
    second.directory place (first.directory place stands)⟩

end KeepsDirectories

/-- What is found at a path: the node where it leads, and a file only if the path can name one. -/
theorem find_eq_ok_iff {workspace : Workspace} {path : Path} {location : Location} {node : Node} :
    workspace.find path = .ok (location, node) ↔
      workspace.locate path = .ok location ∧ workspace.node? location = some node ∧
        (node = .directory ∨ path.needsDirectory = false) := by
  unfold find
  cases workspace.locate path with
  | error fault => simp [bind, Except.bind]
  | ok place =>
      simp only [bind, Except.bind, Except.ok.injEq]
      split
      · rename_i absent
        constructor
        · nofun
        · rintro ⟨rfl, stands, _⟩
          rw [absent] at stands
          contradiction
      · rename_i stands
        constructor
        · intro found
          cases found
          exact ⟨rfl, stands, .inl rfl⟩
        · rintro ⟨rfl, same, _⟩
          rw [stands] at same
          cases same
          rfl
      · rename_i bytes stands
        cases path.needsDirectory with
        | true =>
            simp only [if_true, reduceCtorEq, or_false, false_iff, not_and]
            rintro rfl same rfl
            rw [stands] at same
            exact nomatch same
        | false =>
            constructor
            · intro found
              cases found
              exact ⟨rfl, stands, .inr rfl⟩
            · rintro ⟨rfl, same, _⟩
              rw [stands] at same
              cases same
              rfl

/-- A file is still found if the directories and its node are as they were. -/
theorem KeepsDirectories.find_file {before after : Workspace}
    (keeps : KeepsDirectories before after)
    {path : Path} {location : Location} {bytes : ByteArray}
    (found : before.find path = .ok (location, .file bytes))
    (same : after.node? location = before.node? location) :
    after.find path = .ok (location, .file bytes) := by
  obtain ⟨located, stands, named⟩ := find_eq_ok_iff.mp found
  exact find_eq_ok_iff.mpr ⟨keeps.locate_eq_ok located, same.trans stands, named⟩

/-! ## What files hold -/

theorem readBytes_of_find {workspace : Workspace} {path : Path} {location : Location}
    {bytes : ByteArray} (found : workspace.find path = .ok (location, .file bytes)) :
    workspace.readBytes path = .ok bytes := by
  unfold readBytes
  rw [found]
  rfl

private theorem fromUTF8?_toUTF8 (text : String) : String.fromUTF8? text.toUTF8 = some text := by
  unfold String.fromUTF8?
  split
  · rfl
  · rename_i invalid
    exact absurd text.isValidUTF8 invalid

theorem readText_of_find {workspace : Workspace} {path : Path} {location : Location} {text : String}
    (found : workspace.find path = .ok (location, .file text.toUTF8)) :
    workspace.readText path = .ok text := by
  unfold readText
  rw [readBytes_of_find found]
  simp only [bind, Except.bind, fromUTF8?_toUTF8]

/-- A text is read from a file. -/
theorem exists_find_of_readText {workspace : Workspace} {path : Path} {text : String}
    (read : workspace.readText path = .ok text) :
    ∃ location bytes, workspace.find path = .ok (location, .file bytes) := by
  obtain ⟨_, bytesRead, _⟩ := bind_eq_ok read
  obtain ⟨⟨location, node⟩, found, kept⟩ := bind_eq_ok bytesRead
  cases node with
  | directory => contradiction
  | file bytes => exact ⟨location, bytes, found⟩

end Workspace

end ApiTrace
