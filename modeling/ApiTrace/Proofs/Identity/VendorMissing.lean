import ApiTrace.Proofs.Identity.Course
import ApiTrace.Proofs.Identity.Provenance
import ApiTrace.Proofs.Identity.VendorCheck
import ApiTrace.Proofs.Identity.VendorMismatch

/-!
# What the check misses after an assignment

The check warns about a function whose name it does not find in the header. A function that was just
numbered may have lost its name: its first version was evicted, and all its pairs are named after
later versions. Here the names that an assignment ships are read off its input: the new functions,
the shipped pairs that no other function claims, and the fresh versions. The check warns exactly
about the other names.
-/

namespace ApiTrace

namespace IdMap

theorem find?_eq_none_iff {map : IdMap} {name : String} :
    map.find? name = none ↔ ∀ number, (name, number) ∉ map.entries := by
  rw [Option.eq_none_iff_forall_ne_some]
  exact forall_congr' fun number => not_congr find?_eq_some_iff

end IdMap

/-- The warning is about a name that is not shipped. -/
theorem warning_mem_levels_iff {map : IdMap} {name : String} {number : Nat} :
    .warning ∈ (findingsOf map name number).map Finding.level ↔ map.find? name = none := by
  rw [map_level_findingsOf]
  cases map.find? name with
  | none => simp
  | some shipped => simp

/-! ## The names of an assignment -/

/-- How often a plan raises a function to a fresh version. -/
def raises (entries : List Entry) (map : IdMap) (base : String) : Nat :=
  (plan entries map).countP fun move => move.bumped? = some base

/-- How a name that a function of the list may have gets into what an assignment ships. -/
inductive Ships (entries : List Entry) (map : IdMap) (name : String) : Prop
  /-- The function is new. -/
  | introduced (unshipped : map.versionsOf name = [])
  /-- A shipped pair of this name keeps its number. -/
  | kept {pair : String × Nat} (member : pair ∈ map.entries)
      (read : (VersionedName.ofName pair.1).name = name)
      (unclaimed : ∀ entry ∈ entries, entry.declared = some pair.2 →
        entry.name = (VersionedName.ofName pair.1).base)
  /-- A function is raised to a version of this name. -/
  | raised {base : String} {version : Nat}
    (written : VersionedName.name ⟨base, some version⟩ = name)
      (above : map.highestVersion base < version)
      (upTo : version ≤ map.highestVersion base + raises entries map base)

section Names

variable {category : Category} {entries : List Entry} {map : IdMap} {name : String}

/-- The fresh versions of a function follow its highest one. -/
theorem exists_raised_iff {base : String} {version : Nat} :
    (∃ deed ∈ courseOf category entries map, deed.move.bumped? = some base ∧
        deed.record.rank = version) ↔
      map.highestVersion base < version ∧
        version ≤ map.highestVersion base + raises entries map base := by
  have ranks :
      ((courseOf category entries map).filter fun deed => deed.move.bumped? = some base).map
      (fun deed => deed.record.rank) =
        List.range' (map.highestVersion base + 1) (raises entries map base) := ranks_deedsOf base
  have among : version ∈ List.range' (map.highestVersion base + 1) (raises entries map base) ↔
      map.highestVersion base < version ∧
        version ≤ map.highestVersion base + raises entries map base := by
    rw [List.mem_range'_1]
    omega
  rw [← among, ← ranks]
  simp only [List.mem_map, List.mem_filter, decide_eq_true_eq, and_assoc]

theorem Yields.name_of_bumped? {space : NumberSpace} {move : Move} {record : Record} {base : String}
    (yields : Yields space move record) (bumps : move.bumped? = some base) :
    record.name = VersionedName.name ⟨base, some record.rank⟩ := by
  cases yields with
  | adopt | mint | keep => contradiction
  | evict | reversion =>
      cases bumps
      rfl

theorem Yields.name_of_introduced? {space : NumberSpace} {move : Move} {record : Record}
    {function : String} (yields : Yields space move record)
    (introduces : move.introduced? = some function) : record.name = function := by
  cases yields with
  | adopt | mint =>
      cases introduces
      rfl
  | keep | evict | reversion => contradiction

/-- A deed that takes its name from a shipped pair keeps the number of the pair. -/
theorem Executed.unclaimed_of_numberEq {deeds : List Deed}
    (executed : Executed category entries map deeds) {deed : Deed} (member : deed ∈ deeds)
    {pair : String × Nat} (shipped : pair ∈ map.entries) (numberEq : deed.record.number = pair.2)
    (versionedEq : deed.record.versioned = VersionedName.ofName pair.1) :
    ∀ entry ∈ entries, entry.declared = some pair.2 →
      entry.name = (VersionedName.ofName pair.1).base := by
  apply executed.valid.claimant?_eq_none_iff.mp
  cases executed.numbered member with
  | shipped otherMem _ otherEq unclaimed =>
      rwa [IdMap.eq_of_number_eq otherMem shipped (otherEq.symm.trans numberEq)] at unclaimed
  | fresh _ unshipped _ => exact absurd (numberEq ▸ List.mem_map_of_mem shipped) unshipped
  | declared _ _ foreign =>
      have version : deed.record.function = (VersionedName.ofName pair.1).base :=
        congrArg VersionedName.base versionedEq
      rw [version] at foreign
      exact absurd numberEq.symm (foreign _ (IdMap.mem_versionsOf_of_mem shipped))

/-- The names of the records are the names that the input ships. -/
theorem exists_record_iff (executed : Executed category entries map (courseOf category entries map))
    {declared : Option Nat} (listed : ⟨name, declared⟩ ∈ entries) :
    (∃ deed ∈ courseOf category entries map, deed.record.name = name) ↔ Ships entries map name := by
  constructor
  · rintro ⟨deed, member, named⟩
    have yields := executed.yields deed member
    cases executed.titled member with
    | shipped pairMem _ numberEq versionedEq =>
        exact .kept pairMem ((congrArg VersionedName.name versionedEq).symm.trans named)
          (executed.unclaimed_of_numberEq member pairMem numberEq versionedEq)
    | introduced introduces _ unshipped =>
        rw [← yields.name_of_introduced? introduces, named] at unshipped
        exact .introduced unshipped
    | raised bumps _ _ =>
        obtain ⟨above, upTo⟩ := exists_raised_iff.mp ⟨deed, member, bumps, rfl⟩
        exact .raised ((yields.name_of_bumped? bumps).symm.trans named) above upTo
  · intro ships
    cases ships with
    | introduced unshipped =>
        have introduced : name ∈ (courseOf category entries map).filterMap fun deed =>
            deed.move.introduced? := by
          rw [executed.filterMap_move, filterMap_introduced?_plan]
          exact List.mem_map_of_mem (List.mem_filter.mpr ⟨listed, decide_eq_true unshipped⟩)
        obtain ⟨deed, member, introduces⟩ := List.mem_filterMap.mp introduced
        exact ⟨deed, member, (executed.yields deed member).name_of_introduced? introduces⟩
    | kept pairMem read unclaimed =>
        obtain ⟨deed, member, versionedEq, _⟩ := executed.exists_deed_of_unclaimed pairMem unclaimed
        exact ⟨deed, member, (congrArg VersionedName.name versionedEq).trans read⟩
    | raised written above upTo =>
        obtain ⟨deed, member, bumps, rfl⟩ := exists_raised_iff.mpr ⟨above, upTo⟩
        exact ⟨deed, member, ((executed.yields deed member).name_of_bumped? bumps).trans written⟩

end Names

/-- After an assignment, the check warns about a function exactly if the input ships no pair of its
name, although the number that is reported as not found is always shipped for the function. -/
theorem checkAgainstVendor_warns_iff (category : Category) (entries : List Entry) (map : IdMap)
    (assignment : Assignment) (ended : (assign category entries map).outcome = .ok assignment) :
    ∃ shipped, assignment.toMap = .ok shipped ∧
      ∀ name number, ⟨name, some number⟩ ∈ entries →
        (Finds shipped entries .warning name number ↔ ¬Ships entries map name) ∧
        ∃ version, shipped.owner? number = some (VersionedName.name ⟨name, version⟩) := by
  have assigned := assigned_courseOf ended
  obtain ⟨shipped, read⟩ := assigned.exists_toMap
  refine ⟨shipped, read, fun name number published => ⟨?_, assigned.exists_owner read published⟩⟩
  rw [finds_iff published, warning_mem_levels_iff, IdMap.find?_eq_none_iff,
    ← exists_record_iff assigned.toExecuted published]
  simp only [assigned.mem_shipped_iff read]
  constructor
  · rintro absent ⟨deed, member, rfl⟩
    exact absent _ ⟨deed, member, rfl⟩
  · rintro unnamed number ⟨deed, member, same⟩
    exact unnamed ⟨deed, member, congrArg Prod.fst same⟩

/-!
## A function that loses its name

The function declares a new number, and another function claims the old one.
-/

namespace Renamed

def category : Category := ⟨"runtime", "sycl"⟩

def entries : List Entry :=
  [⟨"urInit", some 9⟩, ⟨"urOpen", some 5⟩]

def map : IdMap where
  numbers := ⟨[("urInit", 5)], by decide⟩
  distinct := by decide
  positive := by decide
  nextFree := 6

def assignment : Assignment where
  category := category
  records := [⟨"urOpen", 5, none, .current⟩, ⟨"urInit", 6, some 2, .residual⟩,
    ⟨"urInit", 9, some 3, .current⟩]
  events :=
    [.recycled "urInit" 5 "urOpen" "urInit_v2" 6, .reversioned "urInit" "urInit" 5 "urInit_v3" 9]

/-- What is read back. -/
def shipped : IdMap where
  numbers := ⟨[("urInit_v2", 6), ("urInit_v3", 9), ("urOpen", 5)], by decide⟩
  distinct := by decide
  positive := by decide
  nextFree := 10

theorem ended : (assign category entries map).outcome = .ok assignment := by
  cbv

theorem read : assignment.toMap = .ok shipped := by
  decide +kernel

/-- The old pair is claimed, and no version is written like the name. -/
theorem not_ships : ¬Ships entries map "urInit" := by
  rintro (unshipped | ⟨member, named, unclaimed⟩ | ⟨written, above, upTo⟩)
  · exact absurd unshipped (by decide +kernel)
  · obtain rfl := List.mem_singleton.mp member
    exact absurd (unclaimed ⟨"urOpen", some 5⟩ (by decide) rfl) (by decide +kernel)
  · have tag : '_' ∈ "urInit".toList := by
      rw [← written, VersionedName.toList_name_tagged]
      exact List.mem_append_right _ List.mem_cons_self
    exact absurd tag (by decide)

end Renamed

/-- The check warns about the function that lost its name, and not about the other one. -/
theorem checkAgainstVendor_warns_renamed :
    (assign Renamed.category Renamed.entries Renamed.map).outcome = .ok Renamed.assignment ∧
      ∃ shipped, Renamed.assignment.toMap = .ok shipped ∧
        Finds shipped Renamed.entries .warning "urInit" 9 ∧
        ¬Finds shipped Renamed.entries .warning "urOpen" 5 := by
  obtain ⟨shipped, read, warns⟩ := checkAgainstVendor_warns_iff Renamed.category Renamed.entries
    Renamed.map Renamed.assignment Renamed.ended
  have opened : Ships Renamed.entries Renamed.map "urOpen" := .introduced (by decide +kernel)
  exact ⟨Renamed.ended, shipped, read, (warns _ _ (by decide)).1.mpr Renamed.not_ships,
    fun warned => (warns _ _ (by decide)).1.mp warned opened⟩

/-- The number that is reported as not found is shipped, under a version of the function. -/
theorem checkAgainstVendor_misses_versioned :
    (assign Renamed.category Renamed.entries Renamed.map).outcome = .ok Renamed.assignment ∧
      Renamed.assignment.toMap = .ok Renamed.shipped ∧
      Renamed.shipped.owner? 9 = some "urInit_v3" ∧
      VersionedName.ofName "urInit_v3" = ⟨"urInit", some 3⟩ ∧
      checkAgainstVendor Renamed.shipped Renamed.entries =
        [⟨.warning, "urInit", 9, "vendor id 9 for urInit not found in the id header"⟩] :=
  ⟨Renamed.ended, Renamed.read, by decide, by decide +kernel, by decide +kernel⟩

end ApiTrace
