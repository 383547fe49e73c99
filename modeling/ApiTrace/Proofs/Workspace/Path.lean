import ApiTrace.Workspace.Basic

/-!
# Named entries of a directory

A path that joins a plain name to a directory ends with the step down to that name, so it leads to a
location of that name. Files with different names therefore lie apart, whatever their directories
are. More generally the last name ends like the text of the path. Where a path leads is settled by
its text, as long as all directories on the way are there.
-/

namespace ApiTrace

/-- A text that names an entry of a directory. -/
structure Path.IsName (name : String) : Prop where
  nonempty : name ≠ ""
  single : '/' ∉ name.toList
  notDot : name ≠ "."
  notParent : name ≠ ".."

namespace Path

variable {name : String}

theorem step?_toList (isName : IsName name) : step? name.toList = some (.down name) := by
  have different {text : String} (differs : name ≠ text) : name.toList ≠ text.toList :=
    fun same => differs (String.toList_inj.mp same)
  have notParent : name.toList ≠ ['.', '.'] := different isName.notParent
  unfold step?
  rw [if_neg, if_neg notParent, String.ofList_toList]
  rintro (empty | dot)
  · exact different isName.nonempty empty
  · exact different isName.notDot dot

private theorem splitOn_of_not_mem {text : List Char} (single : '/' ∉ text) :
    text.splitOn '/' = [text] := by
  have joined := List.splitOn_intercalate '/' (List.forall_mem_singleton.mpr single)
    (List.cons_ne_nil _ _)
  simpa using joined

theorem parts_name (isName : IsName name) : parts ⟨name⟩ = [name.toList] :=
  splitOn_of_not_mem isName.single

/-- The parts of a path that ends with a name behind a slash. -/
theorem exists_parts_append (isName : IsName name) {path : Path} {start : List Char}
    (written : path.text.toList = start ++ '/' :: name.toList) :
    ∃ parts, path.parts = parts ++ [name.toList] := by
  refine ⟨start.splitOn '/', ?_⟩
  rw [parts, written, ← parts_name isName]
  exact List.splitOnP_append_cons start name.toList (beq_self_eq_true '/')

theorem exists_parts_join (isName : IsName name) (directory : Path) :
    ∃ parts, (directory.join ⟨name⟩).parts = parts ++ [name.toList] := by
  unfold join
  split
  · exact ⟨[], parts_name isName⟩
  · split
    · rename_i closed
      obtain ⟨start, startEq⟩ := List.getLast?_eq_some_iff.mp closed
      apply exists_parts_append isName
      rw [String.toList_append, startEq, List.append_assoc, List.singleton_append]
    · apply exists_parts_append isName
      rw [String.toList_append, String.toList_append, List.append_assoc]
      rfl

theorem exists_steps_join (isName : IsName name) (directory : Path) :
    ∃ steps, (directory.join ⟨name⟩).steps = steps ++ [.down name] := by
  obtain ⟨parts, partsEq⟩ := exists_parts_join isName directory
  refine ⟨parts.filterMap step?, ?_⟩
  rw [steps, partsEq, List.filterMap_append, List.filterMap_cons_some (step?_toList isName),
    List.filterMap_nil]

/-- The last part of a path ends like its text, up to the last slash. -/
theorem exists_parts_of_ending {path : Path} {start ending : List Char}
    (written : path.text.toList = start ++ ending) (single : '/' ∉ ending) :
    ∃ parts part, path.parts = parts ++ [part ++ ending] := by
  by_cases sliced : '/' ∈ start
  · obtain ⟨later, earlier, split, last⟩ :=
      List.eq_append_cons_of_mem (List.mem_reverse.mpr sliced)
    have startEq : start = earlier.reverse ++ '/' :: later.reverse := by
      rw [← List.reverse_reverse start, split, List.reverse_append, List.reverse_cons,
        List.append_assoc, List.singleton_append]
    have lastPart : '/' ∉ later.reverse ++ ending := by
      rw [List.mem_append, List.mem_reverse]
      exact fun member => member.elim last single
    refine ⟨earlier.reverse.splitOn '/', later.reverse, ?_⟩
    rw [parts, written, startEq, List.append_assoc, List.cons_append, ← splitOn_of_not_mem lastPart]
    exact List.splitOnP_append_cons _ _ (beq_self_eq_true '/')
  · have onlyPart : '/' ∉ start ++ ending := by
      rw [List.mem_append]
      exact fun member => member.elim sliced single
    refine ⟨[], start, ?_⟩
    rw [parts, written, splitOn_of_not_mem onlyPart, List.nil_append]

/-- A path whose text ends like a name ends with the step down to such a name. -/
theorem exists_steps_of_ending {path : Path} {start ending : List Char}
    (written : path.text.toList = start ++ ending) (single : '/' ∉ ending)
    (long : 2 < ending.length) :
    ∃ steps name, path.steps = steps ++ [.down name] ∧ ending <:+ name.toList := by
  obtain ⟨parts, part, partsEq⟩ := exists_parts_of_ending written single
  have different {text : List Char} (short : text.length ≤ 2) : part ++ ending ≠ text := by
    rintro rfl
    rw [List.length_append] at short
    omega
  have step : step? (part ++ ending) = some (.down (String.ofList (part ++ ending))) := by
    rw [step?, if_neg (not_or.mpr ⟨different (by decide), different (by decide)⟩),
      if_neg (different (by decide))]
  refine ⟨parts.filterMap step?, String.ofList (part ++ ending), ?_, ?_⟩
  · rw [steps, partsEq, List.filterMap_append, List.filterMap_cons_some step, List.filterMap_nil]
  · rw [String.toList_ofList]
    exact List.suffix_append _ _

end Path

/-- Where a step leads from a location. -/
def Step.follow (location : Location) : Step → Location
  | .up => location.dropLast
  | .down name => location ++ [name]

namespace Workspace

/-- Where a path leads if all directories on the way are there. -/
def place (workspace : Workspace) (path : Path) : Location :=
  path.steps.foldl Step.follow (workspace.startOf path)

theorem place_congr {before after : Workspace} (same : after.current = before.current)
    (path : Path) : after.place path = before.place path := by
  rw [place, place, startOf, startOf, same]

/-- A step is taken from a directory, and down only to a name that is not too long. -/
theorem walk_cons_eq_ok_iff {workspace : Workspace} {location reached : Location} {step : Step}
    {steps : List Step} :
    workspace.walk location (step :: steps) = .ok reached ↔
      workspace.node? location = some .directory ∧
        (∀ name, step = .down name → Path.isOverlongName name = false) ∧
        workspace.walk (step.follow location) steps = .ok reached := by
  rw [walk.eq_def]
  cases workspace.node? location with
  | none => simp
  | some node =>
      cases node with
      | file bytes => simp
      | directory =>
          cases step with
          | up => simp [Step.follow]
          | down name => cases overlong : Path.isOverlongName name <;> simp [Step.follow, overlong]

theorem foldl_follow_of_walk {workspace : Workspace} {location reached : Location}
    {steps : List Step} (led : workspace.walk location steps = .ok reached) :
    steps.foldl Step.follow location = reached := by
  induction steps generalizing location with
  | nil =>
      rw [walk] at led
      exact Except.ok.inj led
  | cons step steps ih => exact ih (walk_cons_eq_ok_iff.mp led).2.2

/-- A path leads where its steps lead, unless it is refused. -/
theorem locate_eq_ok_iff {workspace : Workspace} {path : Path} {location : Location} :
    workspace.locate path = .ok location ↔
      refusal? path = none ∧ workspace.walk (workspace.startOf path) path.steps = .ok location := by
  unfold locate
  cases refusal? path <;> simp

/-- A path that leads somewhere leads to its place. -/
theorem place_of_locate {workspace : Workspace} {path : Path} {location : Location}
    (located : workspace.locate path = .ok location) : workspace.place path = location :=
  foldl_follow_of_walk (locate_eq_ok_iff.mp located).2

/-- Steps that end with a step down lead to a location of that name. -/
theorem getLast?_of_walk {workspace : Workspace} {location reached : Location} {steps : List Step}
    {name : String} (led : workspace.walk location (steps ++ [.down name]) = .ok reached) :
    reached.getLast? = some name := by
  induction steps generalizing location with
  | nil =>
      obtain ⟨_, _, led⟩ := walk_cons_eq_ok_iff.mp led
      cases led
      exact List.getLast?_concat
  | cons step steps ih => exact ih (walk_cons_eq_ok_iff.mp led).2.2

/-- A name in a directory leads to a location of that name. -/
theorem getLast?_of_locate_join {workspace : Workspace} {directory : Path} {name : String}
    (isName : Path.IsName name) {location : Location}
    (located : workspace.locate (directory.join ⟨name⟩) = .ok location) :
    location.getLast? = some name := by
  obtain ⟨steps, stepsEq⟩ := Path.exists_steps_join isName directory
  rw [locate_eq_ok_iff, stepsEq] at located
  exact getLast?_of_walk located.2

/-- The name at the end of a path ends like its text. -/
theorem exists_name_of_locate {workspace : Workspace} {path : Path} {start ending : List Char}
    (written : path.text.toList = start ++ ending) (single : '/' ∉ ending)
    (long : 2 < ending.length) {location : Location}
    (located : workspace.locate path = .ok location) :
    ∃ name, location.getLast? = some name ∧ ending <:+ name.toList := by
  obtain ⟨steps, name, stepsEq, ends⟩ := Path.exists_steps_of_ending written single long
  rw [locate_eq_ok_iff, stepsEq] at located
  exact ⟨name, getLast?_of_walk located.2, ends⟩

end Workspace

end ApiTrace
