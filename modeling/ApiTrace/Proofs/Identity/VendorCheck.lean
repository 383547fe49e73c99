import ApiTrace.Proofs.Identity.Names
import ApiTrace.Run.Validate

/-!
# Checking what was assigned

The check against a vendor's numbers asks who owns a published number, and accepts every name that
continues the function's. After an assignment to the functions with these numbers the owner is the
current record of the function, so all that can be found are functions that are not shipped under
their plain names. These are warnings, which fail no validation.
-/

namespace ApiTrace

/-- The warning about a function that is not shipped under its plain name. -/
def missingFinding (name : String) (number : Nat) : Finding :=
  ⟨.warning, name, number,
    "vendor id " ++ Text.showNat number ++ " for " ++ name ++ " not found in the id header"⟩

/-- A number that belongs to a name which continues the function's is at most worth a warning. -/
theorem findingsOf_of_continued {map : IdMap} {name owner : String} {number : Nat}
    (owned : (owner, number) ∈ map.entries) (continues : name.toList <+: owner.toList) :
    findingsOf map name number =
      if (map.find? name).isNone then [missingFinding name number] else [] := by
  unfold findingsOf
  split
  · rename_i absent
    rw [absent]
    rfl
  · rename_i shipped found
    have accepted : name.toList.isPrefixOf owner.toList = true :=
      List.isPrefixOf_iff_prefix.mpr continues
    rw [found, IdMap.owner?_eq_some_iff.mpr owned]
    simp [accepted]

/-- The name of a version continues that of its function. -/
theorem VersionedName.base_isPrefix_name (versioned : VersionedName) :
    versioned.base.toList <+: versioned.name.toList := by
  unfold VersionedName.name
  split
  · rw [String.toList_append, String.toList_append, List.append_assoc]
    exact List.prefix_append _ _
  · exact List.prefix_refl _

/-- After an assignment, the number that a function declares is shipped under a version of the
function. -/
theorem Assigned.exists_owner {category : Category} {entries : List Entry} {map : IdMap}
    {deeds : List Deed} {assignment : Assignment}
    (assigned : Assigned category entries map deeds assignment) {shipped : IdMap}
    (read : assignment.toMap = .ok shipped) {name : String} {number : Nat}
    (declares : ⟨name, some number⟩ ∈ entries) :
    ∃ version, shipped.owner? number = some (VersionedName.name ⟨name, version⟩) := by
  obtain ⟨deed, member, current⟩ := assigned.exists_current declares
  have functionEq : deed.record.function = name :=
    ((assigned.current?_eq_some_iff member).mp current).1
  have numberEq := assigned.number_eq_of_declares declares member current
  refine ⟨deed.record.version, IdMap.owner?_eq_some_iff.mpr ?_⟩
  rw [← functionEq, ← numberEq]
  exact (assigned.mem_shipped_iff read).mpr ⟨deed, member, rfl⟩

/-- What can be found after an assignment: a function that is not shipped under its plain name. -/
theorem Assigned.exists_missing_of_mem {category : Category} {entries : List Entry} {map : IdMap}
    {deeds : List Deed} {assignment : Assignment}
    (assigned : Assigned category entries map deeds assignment) {shipped : IdMap}
    (read : assignment.toMap = .ok shipped) {finding : Finding}
    (found : finding ∈ checkAgainstVendor shipped entries) :
    ∃ name number, ⟨name, some number⟩ ∈ entries ∧ shipped.find? name = none ∧
      finding = missingFinding name number := by
  obtain ⟨⟨name, declared⟩, member, found⟩ := List.mem_flatMap.mp found
  cases declared with
  | none => contradiction
  | some number =>
      dsimp only at found
      obtain ⟨version, owns⟩ := assigned.exists_owner read member
      have continues := VersionedName.base_isPrefix_name ⟨name, version⟩
      rw [findingsOf_of_continued (IdMap.owner?_eq_some_iff.mp owns) continues] at found
      split at found
      · rename_i absent
        exact ⟨name, number, member, Option.isNone_iff_eq_none.mp absent,
          List.mem_singleton.mp found⟩
      · contradiction

/-- Findings that are all warnings fail no validation. -/
theorem ValidateReport.check_of_warnings {report : ValidateReport}
    (warnings : ∀ finding ∈ report.findings, finding.level = .warning) : report.check = .ok () := by
  have none (level : FindingLevel) (serious : level ≠ .warning) : report.count level = 0 := by
    apply List.countP_eq_zero.mpr
    intro finding member same
    exact serious ((of_decide_eq_true same).symm.trans (warnings finding member))
  have failures : report.failures = 0 := by
    rw [failures, none .fatal nofun, none .error nofun]
    split <;> rfl
  rw [check, if_pos failures]

/-- What an assignment ships passes every validation against the numbers that it was made from, also
a strict one. -/
theorem assign_passes_check (category : Category) (entries : List Entry) (map : IdMap)
    (assignment : Assignment) (ended : (assign category entries map).outcome = .ok assignment) :
    ∃ shipped, assignment.toMap = .ok shipped ∧
      (∀ finding ∈ checkAgainstVendor shipped entries,
        finding.level = .warning ∧ shipped.find? finding.function = none) ∧
      ∀ report : ValidateReport, report.findings = checkAgainstVendor shipped entries →
        report.check = .ok () := by
  obtain ⟨deeds, assigned⟩ := exists_deeds_of_assign ended
  obtain ⟨shipped, read⟩ := assigned.exists_toMap
  have warnings : ∀ finding ∈ checkAgainstVendor shipped entries,
      finding.level = .warning ∧ shipped.find? finding.function = none := by
    intro finding member
    obtain ⟨name, number, _, absent, rfl⟩ := assigned.exists_missing_of_mem read member
    exact ⟨rfl, absent⟩
  refine ⟨shipped, read, warnings, fun report found => ?_⟩
  apply ValidateReport.check_of_warnings
  rw [found]
  exact fun finding member => (warnings finding member).1

theorem assign_passes_check_contested :
    (assign Contested.category Contested.entries Contested.map).outcome =
        .ok Contested.assignment ∧
      ∃ shipped, Contested.assignment.toMap = .ok shipped ∧
        (ValidateReport.mk ⟨"pti_driver_levelzero_api_ids.h"⟩ 3 true
          (checkAgainstVendor shipped Contested.entries)).check = .ok () := by
  obtain ⟨shipped, read, _, passes⟩ := assign_passes_check Contested.category Contested.entries
    Contested.map Contested.assignment Contested.ended
  exact ⟨Contested.ended, shipped, read, passes _ rfl⟩

end ApiTrace
