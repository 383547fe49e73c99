import ApiTrace.Proofs.Workspace.Staging

/-!
# Temporary files

Contents that are set aside lie in temporary files beside their destinations until these are renamed
to them, and a temporary file that is given up is removed. The names of temporary files are in no
path of the run, so whatever the run does it does as if they were not there: renaming them in order
leaves what moving the contents leaves. None of them remains but the one that cannot be renamed,
which the error keeps.
-/

namespace ApiTrace

/-! ## Setting aside and renaming -/

/-- How a new file gets its name in a directory. It fails where none can be created or written. -/
abbrev NameSource := Workspace → Location → Except FileFault String

/-- The names on the way along some steps. -/
def stepNames (steps : List Step) : List String :=
  steps.filterMap fun
    | .up => none
    | .down name => some name

/-- The names in the paths of a staged file. -/
def StagedFile.names (file : StagedFile) : List String :=
  stepNames file.destination.steps ++ stepNames file.directory.steps

/-- The names that a source gives are new in their directory, and none of those in use. -/
structure NameSource.Fresh (names : NameSource) (used : List String) : Prop where
  absent : ∀ {workspace directory name}, names workspace directory = .ok name →
    workspace.node? (directory ++ [name]) = none
  unused : ∀ {workspace directory name}, names workspace directory = .ok name → name ∉ used

/-- A temporary file and what it is for. -/
structure Temporary where
  place : Location
  file : StagedFile

namespace Workspace

/-- Set contents aside in a new file. -/
def hold (names : NameSource) (workspace : Workspace) (file : StagedFile) :
    Workspace × Except AccessError Temporary :=
  match workspace.stage file with
  | (after, .error error) => (after, .error error)
  | (after, .ok ()) =>
    let place : Except FileFault Location := do
      let (directory, _) ← after.find file.directory
      return directory ++ [← names after directory]
    match place with
    | .error fault => (after, .error ⟨.createTemporary, file.directory, fault⟩)
    | .ok place => (after.put place (.file file.contents.toUTF8), .ok ⟨place, file⟩)

/-- Remove temporary files. -/
def discard (workspace : Workspace) : List Temporary → Workspace
  | [] => workspace
  | temporary :: temporaries => (workspace.erase temporary.place).discard temporaries

/-- Set several contents aside, after those that are `held` already. If one cannot be, all are given
up. -/
def holdAll (names : NameSource) (workspace : Workspace) (held : List Temporary) :
    List StagedFile → Workspace × Except AccessError (List Temporary)
  | [] => (workspace, .ok held)
  | file :: files =>
    match workspace.hold names file with
    | (after, .error error) => (after.discard held, .error error)
    | (after, .ok temporary) => after.holdAll names (held ++ [temporary]) files

theorem holdAll_cons (names : NameSource) (workspace : Workspace) (held : List Temporary)
    (file : StagedFile) (files : List StagedFile) :
    workspace.holdAll names held (file :: files) = match workspace.hold names file with
      | (after, .error error) => (after.discard held, .error error)
      | (after, .ok temporary) => after.holdAll names (held ++ [temporary]) files := by
  with_unfolding_all rfl

/-- Rename a temporary file to its destination. -/
def persist (workspace : Workspace) (temporary : Temporary) : Except AccessError Workspace :=
  report .writeFile temporary.file.destination do
    let location ← workspace.target temporary.file.destination
    match workspace.node? temporary.place with
    | some node => return (workspace.erase temporary.place).put location node
    | none => throw .missing

/-- Rename temporary files up to the first that fails. Those after it are given up; the error keeps
that one. -/
def persistAll (workspace : Workspace) :
    List Temporary → Workspace × Except (AccessError × Temporary) Unit
  | [] => (workspace, .ok ())
  | temporary :: temporaries =>
    match workspace.persist temporary with
    | .error error => (workspace.discard temporaries, .error (error, temporary))
    | .ok after => after.persistAll temporaries

/-! ## What temporary files hide -/

/-- A workspace with temporary files beside what another holds. -/
structure Beside (used : List String) (plain actual : Workspace) (temporaries : List Temporary) :
    Prop where
  current : actual.current = plain.current
  home : plain.current ⊆ used
  node? : ∀ location, location ∉ temporaries.map Temporary.place →
    actual.node? location = plain.node? location
  kept : ∀ temporary ∈ temporaries,
    actual.node? temporary.place = some (.file temporary.file.contents.toUTF8)
  absent : ∀ temporary ∈ temporaries, plain.node? temporary.place = none
  hidden : ∀ temporary ∈ temporaries, ¬ temporary.place ⊆ used
  apart : (temporaries.map Temporary.place).Nodup

namespace Beside

variable {used : List String} {plain actual : Workspace} {temporaries : List Temporary}

theorem refl {workspace : Workspace} (home : workspace.current ⊆ used) :
    Beside used workspace workspace [] :=
  ⟨rfl, home, fun _ _ => rfl, nofun, nofun, nofun, List.nodup_nil⟩

theorem ne_of_within (beside : Beside used plain actual temporaries) {location : Location}
    (within : location ⊆ used) : location ∉ temporaries.map Temporary.place := by
  intro member
  obtain ⟨temporary, temporaryMem, rfl⟩ := List.mem_map.mp member
  exact beside.hidden temporary temporaryMem within

/-- Where all names are in use, no temporary file lies. -/
theorem node?_of_within (beside : Beside used plain actual temporaries) {location : Location}
    (within : location ⊆ used) : actual.node? location = plain.node? location :=
  beside.node? location (beside.ne_of_within within)

/-- A change where all names are in use is made beside the temporary files. -/
theorem put (beside : Beside used plain actual temporaries) {location : Location}
    (within : location ⊆ used) (notRoot : location ≠ []) (node : Node) :
    Beside used (plain.put location node) (actual.put location node) temporaries where
  current := beside.current
  home := beside.home
  node? other outside := by
    by_cases same : other = location
    · subst same
      rw [node?_put_self actual notRoot, node?_put_self plain notRoot]
    · rw [node?_put_of_ne actual same, node?_put_of_ne plain same, beside.node? other outside]
  kept temporary member := by
    have different : temporary.place ≠ location :=
      fun same => beside.hidden temporary member (same ▸ within)
    rw [node?_put_of_ne actual different, beside.kept temporary member]
  absent temporary member := by
    have different : temporary.place ≠ location :=
      fun same => beside.hidden temporary member (same ▸ within)
    rw [node?_put_of_ne plain different, beside.absent temporary member]
  hidden := beside.hidden
  apart := beside.apart

/-- A new temporary file. -/
theorem concat (beside : Beside used plain actual temporaries) (temporary : Temporary)
    (absent : actual.node? temporary.place = none) (hidden : ¬ temporary.place ⊆ used) :
    Beside used plain
      (actual.put temporary.place (.file temporary.file.contents.toUTF8))
      (temporaries ++ [temporary]) := by
  have notRoot : temporary.place ≠ [] := by
    intro root
    rw [root] at hidden
    exact hidden (List.nil_subset used)
  have new : temporary.place ∉ temporaries.map Temporary.place := by
    intro member
    obtain ⟨other, otherMem, same⟩ := List.mem_map.mp member
    rw [← same, beside.kept other otherMem] at absent
    contradiction
  have elsewhere : ∀ other ∈ temporaries, other.place ≠ temporary.place :=
    fun other member same => new (same ▸ List.mem_map_of_mem member)
  constructor
  case current => exact beside.current
  case home => exact beside.home
  case node? =>
    intro location outside
    rw [List.map_append, List.mem_append, not_or, List.map_singleton, List.mem_singleton] at outside
    rw [node?_put_of_ne actual outside.2, beside.node? location outside.1]
  case kept =>
    intro other member
    rcases List.mem_append.mp member with member | member
    · rw [node?_put_of_ne actual (elsewhere other member), beside.kept other member]
    · rw [List.mem_singleton.mp member, node?_put_self actual notRoot]
  case absent =>
    intro other member
    rcases List.mem_append.mp member with member | member
    · exact beside.absent other member
    · rw [List.mem_singleton.mp member, ← beside.node? temporary.place new, absent]
  case hidden =>
    intro other member
    rcases List.mem_append.mp member with member | member
    · exact beside.hidden other member
    · rw [List.mem_singleton.mp member]
      exact hidden
  case apart =>
    rw [List.map_append, List.map_singleton, List.nodup_append]
    exact ⟨beside.apart, by simp, by simpa using elsewhere⟩

/-- A temporary file is removed. -/
theorem erase {temporary : Temporary}
    (beside : Beside used plain actual (temporary :: temporaries)) :
    Beside used plain (actual.erase temporary.place) temporaries := by
  have hidden := beside.hidden temporary List.mem_cons_self
  have notRoot : temporary.place ≠ [] := by
    intro root
    rw [root] at hidden
    exact hidden (List.nil_subset used)
  have apart := beside.apart
  rw [List.map_cons, List.nodup_cons] at apart
  constructor
  case current => exact beside.current
  case home => exact beside.home
  case node? =>
    intro location outside
    by_cases same : location = temporary.place
    · rw [same, node?_erase_self actual notRoot, beside.absent temporary List.mem_cons_self]
    · rw [node?_erase_of_ne actual same]
      apply beside.node?
      rw [List.map_cons, List.mem_cons, not_or]
      exact ⟨same, outside⟩
  case kept =>
    intro other member
    have different : other.place ≠ temporary.place :=
      fun same => apart.1 (same ▸ List.mem_map_of_mem member)
    rw [node?_erase_of_ne actual different, beside.kept other (List.mem_cons_of_mem _ member)]
  case absent => exact fun other member => beside.absent other (List.mem_cons_of_mem _ member)
  case hidden => exact fun other member => beside.hidden other (List.mem_cons_of_mem _ member)
  case apart => exact apart.2

/-- When some temporary files are removed, the others lie beside the same. -/
theorem discard {kept : List Temporary} (beside : Beside used plain actual (temporaries ++ kept)) :
    Beside used plain (actual.discard temporaries) kept := by
  induction temporaries generalizing actual with
  | nil => exact beside
  | cons temporary temporaries ih => exact ih beside.erase

/-- When all temporary files are removed, what is left is what there was without them. -/
theorem discard_all (beside : Beside used plain actual temporaries) :
    Beside used plain (actual.discard temporaries) [] := by
  rw [← List.append_nil temporaries] at beside
  exact beside.discard

/-- The order of the temporary files does not matter. -/
theorem perm {others : List Temporary} (beside : Beside used plain actual temporaries)
    (same : temporaries.Perm others) : Beside used plain actual others where
  current := beside.current
  home := beside.home
  node? location outside := by
    rw [← (same.map Temporary.place).mem_iff] at outside
    exact beside.node? location outside
  kept temporary member := beside.kept temporary (same.mem_iff.mpr member)
  absent temporary member := beside.absent temporary (same.mem_iff.mpr member)
  hidden temporary member := beside.hidden temporary (same.mem_iff.mpr member)
  apart := (same.map Temporary.place).nodup_iff.mp beside.apart

/-! ## Paths do not meet temporary files -/

theorem walk_eq (beside : Beside used plain actual temporaries) {location : Location}
    {steps : List Step} (within : location ⊆ used) (named : stepNames steps ⊆ used) :
    actual.walk location steps = plain.walk location steps ∧
      ∀ reached, plain.walk location steps = .ok reached → reached ⊆ used := by
  induction steps generalizing location with
  | nil =>
      refine ⟨rfl, fun reached led => ?_⟩
      cases led
      exact within
  | cons step steps ih =>
      unfold walk
      rw [beside.node?_of_within within]
      cases plain.node? location with
      | none => exact ⟨rfl, by simp⟩
      | some node =>
          cases node with
          | file bytes => exact ⟨rfl, by simp⟩
          | directory =>
              cases step with
              | up => exact ih (List.Subset.trans (List.dropLast_subset location) within) named
              | down name =>
                  obtain ⟨nameUsed, rest⟩ := List.cons_subset.mp named
                  dsimp only
                  split
                  · exact ⟨rfl, by simp⟩
                  · exact ih (List.append_subset.mpr ⟨within, by simpa using nameUsed⟩) rest

theorem startOf_subset (beside : Beside used plain actual temporaries) (path : Path) :
    actual.startOf path = plain.startOf path ∧ plain.startOf path ⊆ used := by
  unfold startOf
  rw [beside.current]
  split
  · exact ⟨rfl, List.nil_subset used⟩
  · exact ⟨rfl, beside.home⟩

theorem locate_eq (beside : Beside used plain actual temporaries) {path : Path}
    (named : stepNames path.steps ⊆ used) :
    actual.locate path = plain.locate path ∧
      ∀ location, plain.locate path = .ok location → location ⊆ used := by
  obtain ⟨start, within⟩ := beside.startOf_subset path
  unfold locate
  rw [start]
  split
  · exact ⟨rfl, nofun⟩
  · exact beside.walk_eq within named

theorem find_eq (beside : Beside used plain actual temporaries) {path : Path}
    (named : stepNames path.steps ⊆ used) : actual.find path = plain.find path := by
  obtain ⟨located, within⟩ := beside.locate_eq named
  unfold find
  rw [located]
  cases reached : plain.locate path with
  | error fault => rfl
  | ok location =>
      simp only [bind, Except.bind]
      rw [beside.node?_of_within (within location reached)]

theorem hasPath_eq (beside : Beside used plain actual temporaries) {path : Path}
    (named : stepNames path.steps ⊆ used) : actual.hasPath path = plain.hasPath path := by
  rw [hasPath, hasPath, beside.find_eq named]

theorem target_eq (beside : Beside used plain actual temporaries) {path : Path}
    (named : stepNames path.steps ⊆ used) : actual.target path = plain.target path := by
  obtain ⟨located, within⟩ := beside.locate_eq named
  unfold target
  rw [located]
  cases reached : plain.locate path with
  | error fault => rfl
  | ok location =>
      simp only [bind, Except.bind]
      rw [beside.node?_of_within (within location reached)]

/-! ## Operations beside temporary files -/

theorem createAlong (beside : Beside used plain actual temporaries) (named created : Bool)
    {location : Location} {steps : List Step} (within : location ⊆ used)
    (stepsNamed : stepNames steps ⊆ used) :
    Beside used (plain.createAlong named created location steps).1
        (actual.createAlong named created location steps).1 temporaries ∧
      (actual.createAlong named created location steps).2 =
        (plain.createAlong named created location steps).2 := by
  induction steps generalizing plain actual created location with
  | nil => exact ⟨beside, rfl⟩
  | cons step steps ih =>
      cases step with
      | up =>
          exact ih beside created (List.Subset.trans (List.dropLast_subset location) within)
            stepsNamed
      | down name =>
          obtain ⟨nameUsed, rest⟩ := List.cons_subset.mp stepsNamed
          have nextWithin : location ++ [name] ⊆ used :=
            List.append_subset.mpr ⟨within, by simpa using nameUsed⟩
          unfold Workspace.createAlong
          dsimp only
          rw [beside.node?_of_within nextWithin]
          split
          · exact ⟨beside, rfl⟩
          cases plain.node? (location ++ [name]) with
          | none =>
              dsimp only
              split
              · exact ⟨beside, rfl⟩
              · have notRoot : location ++ [name] ≠ [] :=
                  List.append_ne_nil_of_right_ne_nil location (List.cons_ne_nil name [])
                exact ih (beside.put nextWithin notRoot .directory) true nextWithin rest
          | some node =>
              cases node with
              | directory => exact ih beside created nextWithin rest
              | file bytes => exact ⟨beside, rfl⟩

theorem ensureDirectory (beside : Beside used plain actual temporaries) {path : Path}
    (named : stepNames path.steps ⊆ used) :
    Beside used (plain.ensureDirectory path).1 (actual.ensureDirectory path).1 temporaries ∧
      (actual.ensureDirectory path).2 = (plain.ensureDirectory path).2 := by
  obtain ⟨start, within⟩ := beside.startOf_subset path
  unfold Workspace.ensureDirectory
  rw [beside.hasPath_eq named, start]
  split
  · exact ⟨beside, rfl⟩
  · cases refusal? path with
    | some fault => exact ⟨beside, rfl⟩
    | none =>
        obtain ⟨after, same⟩ := beside.createAlong path.endsInName false within named
        exact ⟨after, congrArg (report .createDirectory path) same⟩

theorem stage (beside : Beside used plain actual temporaries) {file : StagedFile}
    (named : file.names ⊆ used) :
    Beside used (plain.stage file).1 (actual.stage file).1 temporaries ∧
      (actual.stage file).2 = (plain.stage file).2 := by
  have directoryNamed : stepNames file.directory.steps ⊆ used :=
    (List.append_subset.mp named).2
  obtain ⟨after, same⟩ := beside.ensureDirectory directoryNamed
  unfold Workspace.stage
  generalize plain.ensureDirectory file.directory = plainResult at after same ⊢
  generalize actual.ensureDirectory file.directory = actualResult at after same ⊢
  obtain ⟨plainAfter, outcome⟩ := plainResult
  obtain ⟨actualAfter, actualOutcome⟩ := actualResult
  dsimp only at after same
  rw [same]
  cases outcome with
  | error error => exact ⟨after, rfl⟩
  | ok =>
      have remote : actualAfter.isRemote file.directory = plainAfter.isRemote file.directory := by
        rw [isRemote, isRemote, after.current]
      dsimp only
      rw [remote, after.find_eq directoryNamed]
      split
      · exact ⟨after, rfl⟩
      · split <;> exact ⟨after, rfl⟩

/-- Setting contents aside in a new file: it lies beside what staging leaves, or nothing new does.
-/
theorem hold (beside : Beside used plain actual temporaries) {names : NameSource}
    (fresh : names.Fresh used) {file : StagedFile} (named : file.names ⊆ used) :
    (∃ after temporary, actual.hold names file = (after, .ok temporary) ∧
      temporary.file = file ∧ (plain.stage file).2 = .ok () ∧
      Beside used (plain.stage file).1 after (temporaries ++ [temporary])) ∨
    ∃ after error, actual.hold names file = (after, .error error) ∧
      Beside used (plain.stage file).1 after temporaries := by
  obtain ⟨staged, same⟩ := beside.stage named
  unfold Workspace.hold
  generalize plain.stage file = plainResult at staged same ⊢
  generalize actual.stage file = actualResult at staged same ⊢
  obtain ⟨plainAfter, outcome⟩ := plainResult
  obtain ⟨after, actualOutcome⟩ := actualResult
  dsimp only at staged same
  rw [same]
  cases outcome with
  | error error => exact .inr ⟨after, error, rfl, staged⟩
  | ok =>
      dsimp only
      cases found : after.find file.directory with
      | error fault => exact .inr ⟨after, _, rfl, staged⟩
      | ok entry =>
          obtain ⟨directory, node⟩ := entry
          simp only [bind, Except.bind]
          cases given : names after directory with
          | error fault => exact .inr ⟨after, _, rfl, staged⟩
          | ok name =>
              have hidden : ¬ directory ++ [name] ⊆ used := fun within =>
                fresh.unused given (within (List.mem_append_right _ List.mem_cons_self))
              exact .inl ⟨_, ⟨directory ++ [name], file⟩, rfl, rfl, trivial,
                staged.concat ⟨directory ++ [name], file⟩ (fresh.absent given) hidden⟩

/-- Setting several contents aside: all lie beside what staging leaves, or none is left and only
directories are new. -/
theorem holdAll (beside : Beside used plain actual temporaries) {names : NameSource}
    (fresh : names.Fresh used) {files : List StagedFile}
    (named : ∀ file ∈ files, file.names ⊆ used) :
    (∃ after held, actual.holdAll names temporaries files = (after, .ok held) ∧
      held.map Temporary.file = temporaries.map Temporary.file ++ files ∧
      (plain.stageAll files).2 = .ok () ∧ Beside used (plain.stageAll files).1 after held) ∨
    ∃ after error between, actual.holdAll names temporaries files = (after, .error error) ∧
      AddsDirectories plain between ∧ Beside used between after [] := by
  induction files generalizing plain actual temporaries with
  | nil =>
      rw [stageAll_nil]
      exact .inl ⟨actual, temporaries, rfl, (List.append_nil _).symm, rfl, beside⟩
  | cons file files ih =>
      obtain ⟨fileNamed, filesNamed⟩ := List.forall_mem_cons.mp named
      have adds := plain.stage_adds file
      rw [holdAll_cons, stageAll_cons]
      rcases beside.hold fresh fileNamed with
        ⟨after, temporary, held, rfl, staged, besideAfter⟩ | ⟨after, error, failed, besideAfter⟩
      · rw [held]
        generalize plain.stage temporary.file = plainResult at adds staged besideAfter ⊢
        obtain ⟨plainAfter, outcome⟩ := plainResult
        dsimp only at adds staged besideAfter
        rw [staged]
        dsimp only
        rcases ih besideAfter filesNamed with
          ⟨last, all, ended, sameFiles, allStaged, besideLast⟩ |
            ⟨last, error, between, ended, more, besideLast⟩
        · rw [List.map_append, List.append_assoc] at sameFiles
          exact .inl ⟨last, all, ended, sameFiles, allStaged, besideLast⟩
        · exact .inr ⟨last, error, between, ended, adds.trans more, besideLast⟩
      · rw [failed]
        exact .inr ⟨_, error, _, rfl, adds, besideAfter.discard_all⟩

/-- Renaming a temporary file does what moving its contents does. -/
theorem persist {temporary : Temporary}
    (beside : Beside used plain actual (temporary :: temporaries))
    (named : temporary.file.names ⊆ used) :
    (∃ after next, plain.moveInto temporary.file = .ok after ∧
      actual.persist temporary = .ok next ∧ Beside used after next temporaries) ∨
    ∃ fault, plain.moveInto temporary.file =
        .error ⟨.writeFile, temporary.file.destination, fault⟩ ∧
      actual.persist temporary = .error ⟨.writeFile, temporary.file.destination, fault⟩ := by
  have destinationNamed : stepNames temporary.file.destination.steps ⊆ used :=
    (List.append_subset.mp named).1
  obtain ⟨_, within⟩ := beside.locate_eq destinationNamed
  unfold moveInto Workspace.persist
  rw [beside.target_eq destinationNamed, beside.kept temporary List.mem_cons_self]
  cases reached : plain.target temporary.file.destination with
  | error fault => exact .inr ⟨fault, rfl, rfl⟩
  | ok location =>
      obtain ⟨_, _, located, _⟩ := target_eq_ok_iff.mp reached
      exact .inl ⟨_, _, rfl, rfl,
        beside.erase.put (within location located) (ne_nil_of_target reached) _⟩

/-- Renaming temporary files does what a commit of their contents does. None of them remains, but
for the one whose destination is refused. -/
theorem persistAll (beside : Beside used plain actual temporaries)
    (named : ∀ temporary ∈ temporaries, temporary.file.names ⊆ used) :
    (∃ after last, plain.commit (temporaries.map Temporary.file) = (after, .ok ()) ∧
      actual.persistAll temporaries = (last, .ok ()) ∧ Beside used after last []) ∨
    ∃ after last temporary fault, plain.commit (temporaries.map Temporary.file) =
        (after, .error ⟨.writeFile, temporary.file.destination, fault⟩) ∧
      actual.persistAll temporaries =
        (last, .error (⟨.writeFile, temporary.file.destination, fault⟩, temporary)) ∧
      Beside used after last [temporary] := by
  induction temporaries generalizing plain actual with
  | nil => exact .inl ⟨plain, actual, rfl, rfl, beside⟩
  | cons temporary temporaries ih =>
      obtain ⟨firstNamed, restNamed⟩ := List.forall_mem_cons.mp named
      rw [List.map_cons, commit, Workspace.persistAll]
      rcases beside.persist firstNamed with ⟨after, next, moved, renamed, besideNext⟩ |
        ⟨fault, refused, failed⟩
      · rw [moved, renamed]
        exact ih besideNext restNamed
      · rw [refused, failed]
        have last : Beside used plain actual (temporaries ++ [temporary]) :=
          beside.perm (List.perm_append_singleton temporary temporaries).symm
        exact .inr ⟨plain, _, temporary, fault, rfl, rfl, last.discard⟩

/-- Without temporary files both workspaces hold the same. -/
theorem node?_eq (beside : Beside used plain actual []) (location : Location) :
    actual.node? location = plain.node? location :=
  beside.node? location List.not_mem_nil

theorem addsDirectories {before : Workspace} (beside : Beside used plain actual [])
    (adds : AddsDirectories before plain) : AddsDirectories before actual where
  current := beside.current.trans adds.current
  node? location := by
    rw [beside.node?_eq location]
    exact adds.node? location

theorem removeFile (beside : Beside used plain actual []) {path : Path}
    (named : stepNames path.steps ⊆ used) :
    Beside used (plain.removeFile path).1 (actual.removeFile path).1 [] ∧
      (actual.removeFile path).2 = (plain.removeFile path).2 := by
  unfold Workspace.removeFile
  rw [beside.find_eq named]
  cases found : plain.find path with
  | error fault => exact ⟨beside, rfl⟩
  | ok entry =>
      obtain ⟨location, node⟩ := entry
      cases node with
      | directory => exact ⟨beside, rfl⟩
      | file bytes =>
          have stands := (find_eq_ok_iff.mp found).2.1
          have notRoot : location ≠ [] := by
            rintro rfl
            have root : plain.node? [] = some .directory := rfl
            rw [root] at stands
            exact nomatch stands
          refine ⟨⟨beside.current, beside.home, ?_, nofun, nofun, nofun, List.nodup_nil⟩, rfl⟩
          intro other _
          by_cases same : other = location
          · rw [same, node?_erase_self actual notRoot, node?_erase_self plain notRoot]
          · rw [node?_erase_of_ne actual same, node?_erase_of_ne plain same, beside.node?_eq]

end Beside

end Workspace

end ApiTrace
