import ApiTrace.Proofs.Identity.Course
import ApiTrace.Proofs.Identity.Provenance

/-!
# Room in 32 bits

A plan takes at most one fresh number for each function and for each shipped pair, and raises a
function at most once for each shipped pair and once for the number that it declares. So a run that
starts as far from the end of the 32-bit numbers never reaches it: every search for a free number
ends, and no step of one and no step from a version to the next leaves 32 bits.
-/

namespace ApiTrace

/-- The highest number that a run starts from. -/
def numberCeiling (entries : List Entry) (map : IdMap) : Nat :=
  (map.nextFree :: takenNumbers entries map).foldr max 0

/-- The highest shipped version. -/
def IdMap.versionCeiling (map : IdMap) : Nat :=
  (1 :: map.entries.map fun pair => (VersionedName.ofName pair.1).rank).foldr max 0

theorem nextFree_le_numberCeiling (entries : List Entry) (map : IdMap) :
    map.nextFree ≤ numberCeiling entries map :=
  List.le_max_of_le List.mem_cons_self (Nat.le_refl _)

theorem le_numberCeiling {entries : List Entry} {map : IdMap} {number : Nat}
    (taken : number ∈ takenNumbers entries map) : number ≤ numberCeiling entries map :=
  List.le_max_of_le (List.mem_cons_of_mem _ taken) (Nat.le_refl _)

theorem IdMap.highestVersion_le_versionCeiling (map : IdMap) (base : String) :
    map.highestVersion base ≤ map.versionCeiling := by
  apply highestVersion_le
  · exact List.le_max_of_le List.mem_cons_self (Nat.le_refl _)
  · intro prior version
    obtain ⟨shipped, read⟩ := mem_versionsOf_iff.mp version
    have ranked := List.mem_map_of_mem (f := fun pair => (VersionedName.ofName pair.1).rank) shipped
    dsimp only at ranked
    rw [read] at ranked
    exact List.le_max_of_le (List.mem_cons_of_mem _ ranked) (Nat.le_refl _)

/-! ## Searching in 32 bits -/

/-- A search for an unused number in steps of one, none of which leaves 32 bits. -/
inductive Searched (used : List Nat) : Nat → Nat → Prop
  | found {candidate : Nat} (free : candidate ∉ used) : Searched used candidate candidate
  | next {candidate number : Nat} (isUsed : candidate ∈ used)
    (within : candidate + 1 ≤ Text.maxWord)
      (rest : Searched used (candidate + 1) number) : Searched used candidate number

theorem searched_of_run {used : List Nat} {number : Nat} (free : number ∉ used)
    (within : number ≤ Text.maxWord) {start : Nat} (reached : start ≤ number)
    (run : ∀ candidate, start ≤ candidate → candidate < number → candidate ∈ used) :
    Searched used start number := by
  induction reached using Nat.decreasingInduction with
  | self => exact .found free
  | of_succ start below ih =>
      refine .next (run start (Nat.le_refl start) below) (Nat.le_trans below within) (ih ?_)
      intro candidate above
      exact run candidate (Nat.le_of_succ_le above)

/-- The numbers given out so far all lie below the start of a search, so they do not matter. -/
theorem searched_firstFree {taken minted : List Nat} {start : Nat}
    (passed : ∀ number ∈ minted, number < start)
    (within : firstFree taken start ≤ Text.maxWord) :
    Searched (taken ++ minted) start (firstFree taken start) := by
  have above : start ≤ firstFree taken start := le_firstFree taken start
  apply searched_of_run _ within above
  · intro candidate reached below
    by_contra unused
    have untaken : candidate ∉ taken := fun member => unused (List.mem_append_left minted member)
    exact absurd (firstFree_le reached untaken) (Nat.not_le_of_lt below)
  · intro member
    rcases List.mem_append.mp member with member | member
    · exact firstFree_not_mem taken start member
    · exact absurd (passed _ member) (Nat.not_lt_of_le above)

/-! ## How much a plan takes -/

section Plan

variable {entries : List Entry} {map : IdMap}

/-- A decision takes a fresh number for a new function or for a shipped pair. -/
theorem Move.isSome_of_mints (move : Move) (mints : move.mints) :
    move.introduced?.isSome ∨ move.shipped?.isSome := by
  cases move with
  | adopt | keep | reversion => contradiction
  | mint => exact .inl rfl
  | evict => exact .inr rfl

/-- A decision raises a function for a shipped pair or as the current one about it. -/
theorem Move.isSome_of_bumped? {move : Move} {base : String} (bumps : move.bumped? = some base) :
    move.current? = some base ∨ move.shipped?.isSome := by
  cases move with
  | adopt | mint | keep => contradiction
  | evict => exact .inr rfl
  | reversion => exact .inl bumps

private theorem countP_le_add {α : Type} {p q r : α → Bool}
    (either : ∀ item, p item = true → q item = true ∨ r item = true) (items : List α) :
    items.countP p ≤ items.countP q + items.countP r := by
  induction items with
  | nil => exact Nat.le_refl 0
  | cons item items ih =>
      have here := either item
      simp only [List.countP_cons]
      by_cases holds : p item = true
      · rcases here holds with holds | holds <;> simp only [holds, if_true] <;> split <;> omega
      · simp only [holds, Bool.false_eq_true, if_false]
        omega

private theorem countP_shipped?_plan (names : (entries.map Entry.name).Nodup) :
    (plan entries map).countP (fun move => move.shipped?.isSome) = map.entries.length := by
  rw [← List.length_filterMap_eq_countP, (filterMap_shipped?_plan_perm names).length_eq]

/-- A plan takes at most one fresh number for each function and for each shipped pair. -/
theorem countP_mints_plan_le (names : (entries.map Entry.name).Nodup) :
    (plan entries map).countP Move.mints ≤ entries.length + map.entries.length := by
  have introduced : (plan entries map).countP (fun move => move.introduced?.isSome) ≤
      entries.length := by
    rw [← List.length_filterMap_eq_countP, filterMap_introduced?_plan, List.length_map]
    exact List.length_filter_le _ _
  have split := countP_le_add Move.isSome_of_mints (plan entries map)
  rw [countP_shipped?_plan names] at split
  omega

/-- A plan raises a function at most once more than there are shipped pairs. -/
theorem countP_bumped?_plan_le (names : (entries.map Entry.name).Nodup) (base : String) :
    (plan entries map).countP (fun move => move.bumped? = some base) ≤ map.entries.length + 1 := by
  have current : (plan entries map).countP (fun move => move.current? == some base) ≤ 1 := by
    rw [← List.count_filterMap, filterMap_current?_plan]
    exact List.nodup_iff_count_le_one.mp names base
  have either : ∀ move : Move, decide (move.bumped? = some base) = true →
      (move.current? == some base) = true ∨ move.shipped?.isSome = true := by
    intro move bumps
    simpa using Move.isSome_of_bumped? (of_decide_eq_true bumps)
  have split := countP_le_add either (plan entries map)
  rw [countP_shipped?_plan names] at split
  omega

end Plan

/-- Fresh numbers stay close to where they start. -/
theorem NumberSpace.le_of_mem_freshNumbers {space : NumberSpace} {ceiling last count : Nat}
    (start : space.map.nextFree ≤ ceiling) (taken : ∀ number ∈ space.taken, number ≤ ceiling)
    {number : Nat} (fresh : number ∈ space.freshNumbers last count) :
    number ≤ max ceiling last + count := by
  induction count generalizing last with
  | zero => contradiction
  | succ count ih =>
      have untaken : max ceiling last + 1 ∉ space.taken := by
        intro member
        have atMost := taken _ member
        omega
      have first : firstFree space.taken (max space.map.nextFree (last + 1)) ≤
          max ceiling last + 1 := firstFree_le (by omega) untaken
      rw [freshNumbers] at fresh
      rcases List.mem_cons.mp fresh with rfl | rest
      · omega
      · have atMost := ih rest
        omega

/-! ## A run with room -/

/-- The checks before and after a plan do not look at how far the numbers reach. -/
theorem checkEntries_ne_exhausted (scope : String) (earlier later : List Entry) :
    checkEntries scope earlier later ≠ .error .exhausted := by
  fun_induction checkEntries scope earlier later <;> simp_all

theorem checkRecords_ne_exhausted (scope : String) (earlier later : List Record) :
    checkRecords scope earlier later ≠ .error .exhausted := by
  fun_induction checkRecords scope earlier later <;> simp_all

/-- An assignment is out of numbers only where its plan is. -/
theorem foldlM_eq_exhausted_of_assign {category : Category} {entries : List Entry} {map : IdMap}
    (ended : (assign category entries map).outcome = .error .exhausted) :
    WellDeclared entries ∧ (plan entries map).foldlM
      (Numbering.carryOut (spaceOf category entries map)) {} = .error .exhausted := by
  rw [outcome_assign] at ended
  rcases bind_eq_error ended with refused | ⟨_, entriesPass, ended⟩
  · exact absurd refused (checkEntries_ne_exhausted _ _ _)
  · refine ⟨checkEntries_nil_eq_ok_iff.mp entriesPass, ?_⟩
    rcases bind_eq_error ended with exhausted | ⟨numbering, _, ended⟩
    · exact exhausted
    · rcases bind_eq_error ended with refused | ⟨_, _, ended⟩
      · exact absurd refused (checkRecords_ne_exhausted _ _ _)
      · contradiction

namespace Numbering

/-- What a decision takes as fresh is found within 32 bits, where `minted` are the numbers given out
so far. -/
structure Unhindered (space : NumberSpace) (minted : List Nat)
    (numbering : Numbering) (move : Move) :
    Prop where
  mint : move.mints → numbering.last + 1 ≤ Text.maxWord ∧ ∃ number after,
    numbering.mint space = .ok (number, after) ∧
      Searched (space.taken ++ minted) (max space.map.nextFree (numbering.last + 1)) number
  bump : ∀ base, move.bumped? = some base → ∃ version after,
    numbering.bump space base = .ok (version, after)

theorem Fits.unhindered {space : NumberSpace} {minted : List Nat}
    {numbering : Numbering} {move : Move}
    (fits : numbering.Fits space move) (passed : ∀ number ∈ minted, number ≤ numbering.last) :
    numbering.Unhindered space minted move where
  mint mints := by
    have within : numbering.freshNumber space ≤ Text.maxWord := fits.number mints
    have above : numbering.last < numbering.freshNumber space :=
      last_lt_freshNumber space numbering
    refine ⟨Nat.le_trans above within, _, _, if_pos within, searched_firstFree ?_ within⟩
    intro number member
    have atMost := passed number member
    omega
  bump base bumps := ⟨_, _, if_pos (fits.version base bumps)⟩

end Numbering

/-- Every step of a run that succeeds is unhindered. -/
theorem exists_unhindered_of_foldlM {space : NumberSpace} {before later : List Move} {move : Move}
    {after : Numbering}
    (ended : (before ++ move :: later).foldlM (Numbering.carryOut space) {} = .ok after) :
    ∃ numbering, before.foldlM (Numbering.carryOut space) {} = .ok numbering ∧
      numbering.Unhindered space (space.freshNumbers 0 (before.countP Move.mints)) move := by
  rw [List.foldlM_append] at ended
  obtain ⟨numbering, first, ended⟩ := bind_eq_ok ended
  obtain ⟨next, step, _⟩ := bind_eq_ok ended
  have logged := logged_of_foldlM (Logged.start space) first
  refine ⟨numbering, first, (Numbering.carryOut_eq_ok_iff.mp step).1.unhindered ?_⟩
  intro number fresh
  change number ∈ space.freshNumbers ({} : Numbering).last _ at fresh
  rw [← numbers_deedsOf] at fresh
  obtain ⟨deed, kept, rfl⟩ := List.mem_map.mp fresh
  obtain ⟨member, mints⟩ := List.mem_filter.mp kept
  exact logged.le_last deed member mints

section Room

variable {category : Category} {entries : List Entry} {map : IdMap}

/-- The fresh numbers of a run stay below its ceiling and as many numbers above it as it takes. -/
theorem le_of_mem_freshNumbers_plan (names : (entries.map Entry.name).Nodup) {number : Nat}
    (fresh : number ∈ (spaceOf category entries map).freshNumbers 0
      ((plan entries map).countP Move.mints)) :
    number ≤ numberCeiling entries map + (entries.length + map.entries.length) := by
  have atMost := NumberSpace.le_of_mem_freshNumbers (nextFree_le_numberCeiling entries map)
    (fun _ taken => le_numberCeiling taken) fresh
  have mints : (plan entries map).countP Move.mints ≤ entries.length + map.entries.length :=
    countP_mints_plan_le names
  omega

theorem exists_foldlM_of_room (category : Category) (names : (entries.map Entry.name).Nodup)
    (numbers : numberCeiling entries map + (entries.length + map.entries.length) ≤ Text.maxWord)
    (versions : map.versionCeiling + map.entries.length + 1 ≤ Text.maxWord) :
    ∃ numbering, (plan entries map).foldlM
      (Numbering.carryOut (spaceOf category entries map)) {} = .ok numbering := by
  apply exists_foldlM_iff.mpr
  constructor
  · intro number fresh
    exact Nat.le_trans (le_of_mem_freshNumbers_plan names fresh) numbers
  · intro base version raised
    have bumps : (plan entries map).countP (fun move => move.bumped? = some base) ≤
        map.entries.length + 1 := countP_bumped?_plan_le names base
    have highest := map.highestVersion_le_versionCeiling base
    obtain ⟨step, below, rfl⟩ := List.mem_range'.mp raised
    have startEq : ({} : Numbering).nextVersion (spaceOf category entries map) base =
        map.highestVersion base + 1 := rfl
    omega

/-- No number of an assignment is further above the ceiling than there are functions and shipped
pairs. -/
theorem Assigned.number_le {assignment : Assignment}
    (assigned : Assigned category entries map (courseOf category entries map) assignment)
    {record : Record} (member : record ∈ assignment.records) :
    record.number ≤ numberCeiling entries map + (entries.length + map.entries.length) := by
  obtain ⟨deed, deedMem, rfl⟩ := assigned.mem_records_iff.mp member
  have taken : deed.record.number ∈ takenNumbers entries map →
      deed.record.number ≤ numberCeiling entries map + (entries.length + map.entries.length) :=
    fun isTaken => Nat.le_add_right_of_le (le_numberCeiling isTaken)
  cases assigned.numbered deedMem with
  | shipped pairMem _ numberEq _ =>
      apply taken
      rw [numberEq]
      exact List.mem_append_left _ (List.mem_map_of_mem pairMem)
  | fresh mints _ _ =>
      apply le_of_mem_freshNumbers_plan assigned.valid.names
      change _ ∈ (spaceOf category entries map).freshNumbers ({} : Numbering).last _
      rw [← numbers_deedsOf]
      exact List.mem_map_of_mem (List.mem_filter.mpr ⟨deedMem, mints⟩)
  | declared _ declares _ =>
      exact taken (List.mem_append_right _ (List.mem_filterMap.mpr ⟨_, declares, rfl⟩))

end Room

/-- A run far enough from the end of the 32-bit numbers never reaches it: no search for a number and
no step to the next version leaves them, and the numbers stay between one and the ceiling with one
more for each function and each shipped pair. -/
theorem assign_within_word (category : Category) (entries : List Entry) (map : IdMap)
    (numbers : numberCeiling entries map + (entries.length + map.entries.length) ≤ Text.maxWord)
    (versions : map.versionCeiling + map.entries.length + 1 ≤ Text.maxWord) :
    (assign category entries map).outcome ≠ .error .exhausted ∧
    (checkEntries category.key [] entries = .ok () →
      ∀ before move later, plan entries map = before ++ move :: later →
        let space := spaceOf category entries map
        ∃ numbering, before.foldlM (Numbering.carryOut space) {} = .ok numbering ∧
          numbering.Unhindered space (space.freshNumbers 0 (before.countP Move.mints)) move) ∧
    ∀ assignment, (assign category entries map).outcome = .ok assignment →
      ∀ record ∈ assignment.records, 1 ≤ record.number ∧
        record.number ≤ numberCeiling entries map + (entries.length + map.entries.length) := by
  refine ⟨?inBounds, ?unhindered, ?bounded⟩
  case inBounds =>
    intro exhausted
    obtain ⟨valid, stopped⟩ := foldlM_eq_exhausted_of_assign exhausted
    obtain ⟨numbering, ended⟩ := exists_foldlM_of_room category valid.names numbers
      versions
    rw [stopped] at ended
    contradiction
  case unhindered =>
    intro passed before move later planEq space
    have valid : WellDeclared entries := checkEntries_nil_eq_ok_iff.mp passed
    obtain ⟨after, ended⟩ := exists_foldlM_of_room category valid.names numbers versions
    rw [planEq] at ended
    exact exists_unhindered_of_foldlM ended
  case bounded =>
    intro assignment ended record member
    have assigned := assigned_courseOf ended
    obtain ⟨deed, deedMem, rfl⟩ := assigned.mem_records_iff.mp member
    exact ⟨assigned.number_pos deedMem, assigned.number_le member⟩

/-- The contested map with its next numbers directly below the end of the 32-bit numbers. -/
def Contested.tightMap : IdMap :=
  Contested.map.withNextFree 4294967290

theorem assign_within_word_contested :
    numberCeiling Contested.entries Contested.tightMap +
        (Contested.entries.length + Contested.tightMap.entries.length) = Text.maxWord ∧
      Contested.tightMap.versionCeiling + Contested.tightMap.entries.length + 1 ≤ Text.maxWord ∧
      (assign Contested.category Contested.entries Contested.tightMap).outcome ≠
        .error .exhausted ∧
      ∀ assignment,
        (assign Contested.category Contested.entries Contested.tightMap).outcome = .ok assignment →
          ∀ record ∈ assignment.records, 1 ≤ record.number ∧ record.number ≤ Text.maxWord := by
  have numbers : numberCeiling Contested.entries Contested.tightMap +
      (Contested.entries.length + Contested.tightMap.entries.length) = Text.maxWord := by
    decide +kernel
  have versions : Contested.tightMap.versionCeiling + Contested.tightMap.entries.length + 1 ≤
      Text.maxWord := by
    decide +kernel
  obtain ⟨inBounds, _, bounded⟩ := assign_within_word Contested.category Contested.entries
    Contested.tightMap (Nat.le_of_eq numbers) versions
  rw [numbers] at bounded
  exact ⟨numbers, versions, inBounds, bounded⟩

end ApiTrace
