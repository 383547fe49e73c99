import ApiTrace.Proofs.Identity.IdMap
import ApiTrace.Proofs.Identity.Version
import ApiTrace.Identity.VendorCheck

/-!
# What the check against a vendor finds

A shipped function whose vendor number is another one is an error, unless that number belongs to a
version of the function, and fatal besides if it belongs to another function. The check tells the
versions of a function by the start of their names, so it finds exactly these mismatches but for one
kind: where the vendor's number belongs to a function whose name goes on after this one's, nothing
is found.
-/

namespace ApiTrace

/-- Whether a check finds something of a level about a published number. -/
def Finds (map : IdMap) (vendor : List Entry) (level : FindingLevel)
    (name : String) (number : Nat) :
    Prop :=
  ∃ finding ∈ checkAgainstVendor map vendor,
    finding.level = level ∧ finding.function = name ∧ finding.vendorNumber = number

namespace IdMap

/-- The function is shipped under another number, and this one, if it is shipped, belongs neither to
the function nor to a version of it. -/
structure Mismatches (map : IdMap) (name : String) (number : Nat) : Prop where
  differs : ∃ shipped, map.find? name = some shipped ∧ shipped ≠ number
  foreign : ∀ owner, map.owner? number = some owner →
    owner ≠ name ∧ (VersionedName.ofName owner).base ≠ name

/-- The number belongs to a name that goes on after the function's and is no version of it. -/
def Masks (map : IdMap) (name : String) (number : Nat) : Prop :=
  ∃ owner, map.owner? number = some owner ∧ name.toList <+: owner.toList ∧ owner ≠ name ∧
    (VersionedName.ofName owner).base ≠ name

/-- The names of a function's versions start with its name, but so do others. -/
theorem mismatches_and_not_masks_iff {map : IdMap} {name : String} {number : Nat} :
    map.Mismatches name number ∧ ¬map.Masks name number ↔
      (∃ shipped, map.find? name = some shipped ∧ shipped ≠ number) ∧
        ∀ owner, map.owner? number = some owner → ¬name.toList <+: owner.toList := by
  constructor
  · rintro ⟨⟨differs, foreign⟩, unmasked⟩
    refine ⟨differs, fun owner owns starts => ?_⟩
    obtain ⟨other, otherBase⟩ := foreign owner owns
    exact unmasked ⟨owner, owns, starts, other, otherBase⟩
  · rintro ⟨differs, apart⟩
    refine ⟨⟨differs, fun owner owns => ⟨?_, ?_⟩⟩, ?_⟩
    · rintro rfl
      exact apart owner owns (List.prefix_refl _)
    · rintro rfl
      exact apart owner owns (VersionedName.base_ofName_isPrefix owner)
    · rintro ⟨owner, owns, starts, _, _⟩
      exact apart owner owns starts

end IdMap

section Findings

variable {map : IdMap} {name : String} {number : Nat}

theorem about_of_mem_findingsOf {finding : Finding} (found : finding ∈ findingsOf map name number) :
    finding.function = name ∧ finding.vendorNumber = number := by
  unfold findingsOf at found
  generalize map.owner? number = owner at found
  cases known : map.find? name with
  | none =>
      rw [known] at found
      rw [List.mem_singleton.mp found]
      exact ⟨rfl, rfl⟩
  | some shipped =>
      rw [known] at found
      cases owner with
      | none =>
          dsimp only at found
          split at found
          · contradiction
          · rw [List.mem_singleton.mp found]
            exact ⟨rfl, rfl⟩
      | some owner =>
          dsimp only at found
          split at found
          · contradiction
          · rcases List.mem_pair.mp found with rfl | rfl <;> exact ⟨rfl, rfl⟩

/-- The levels of the findings about one published number. -/
theorem map_level_findingsOf :
    (findingsOf map name number).map Finding.level =
      match map.find? name with
      | none => [.warning]
      | some shipped =>
        if shipped = number ∨ ∃ owner ∈ map.owner? number, name.toList <+: owner.toList then []
        else .error :: (map.owner? number).toList.map fun _ => .fatal := by
  unfold findingsOf
  cases map.find? name with
  | none => rfl
  | some shipped =>
      cases map.owner? number with
      | none => by_cases same : shipped = number <;> simp [same]
      | some owner =>
          by_cases accepted : shipped = number ∨ name.toList <+: owner.toList <;> simp [accepted]

theorem error_mem_levels_iff :
    .error ∈ (findingsOf map name number).map Finding.level ↔
      map.Mismatches name number ∧ ¬map.Masks name number := by
  rw [IdMap.mismatches_and_not_masks_iff, map_level_findingsOf]
  cases map.find? name with
  | none => simp
  | some shipped => simp

theorem fatal_mem_levels_iff :
    .fatal ∈ (findingsOf map name number).map Finding.level ↔
      .error ∈ (findingsOf map name number).map Finding.level ∧ (map.owner? number).isSome := by
  rw [map_level_findingsOf]
  cases map.find? name with
  | none => simp
  | some shipped => simp [Option.isSome_iff_ne_none]

/-- A check looks at each published number by itself. -/
theorem finds_iff {vendor : List Entry} (published : ⟨name, some number⟩ ∈ vendor)
    (level : FindingLevel) :
    Finds map vendor level name number ↔
      level ∈ (findingsOf map name number).map Finding.level := by
  rw [List.mem_map]
  constructor
  · rintro ⟨finding, found, levelEq, aboutName, aboutNumber⟩
    obtain ⟨⟨other, declared⟩, _, found⟩ := List.mem_flatMap.mp found
    cases declared with
    | none => contradiction
    | some otherNumber =>
        obtain ⟨functionEq, numberEq⟩ := about_of_mem_findingsOf found
        dsimp only at found functionEq
        rw [← functionEq, ← numberEq, aboutName, aboutNumber] at found
        exact ⟨finding, found, levelEq⟩
  · rintro ⟨finding, found, levelEq⟩
    exact ⟨finding, List.mem_flatMap.mpr ⟨_, published, found⟩, levelEq,
      about_of_mem_findingsOf found⟩

end Findings

/-- A published number is an error exactly if it mismatches and no longer name masks it, and fatal
exactly if it is moreover shipped. -/
theorem checkAgainstVendor_finds_iff (map : IdMap) (vendor : List Entry) (name : String)
    (number : Nat) (published : ⟨name, some number⟩ ∈ vendor) :
    (Finds map vendor .error name number ↔
      map.Mismatches name number ∧ ¬map.Masks name number) ∧
    (Finds map vendor .fatal name number ↔
      map.Mismatches name number ∧ ¬map.Masks name number ∧ (map.owner? number).isSome) := by
  rw [finds_iff published, finds_iff published, fatal_mem_levels_iff, error_mem_levels_iff,
    and_assoc]
  exact ⟨.rfl, .rfl⟩

/-! ## A number that a longer name masks -/

namespace Masking

/-- A function, and another one whose name goes on after its name. -/
def map : IdMap where
  numbers := ⟨[("zeInit", 1), ("zeInitDrivers", 2), ("zeOpen", 3)], by decide⟩
  distinct := by decide
  positive := by decide
  nextFree := 4

/-- The vendor gives both numbers that belong to other functions to the first one. -/
def vendor : List Entry :=
  [⟨"zeInit", some 2⟩, ⟨"zeInit", some 3⟩]

end Masking

theorem checkAgainstVendor_finds_foreign :
    ⟨"zeInit", some 3⟩ ∈ Masking.vendor ∧ Masking.map.Mismatches "zeInit" 3 ∧
      Finds Masking.map Masking.vendor .error "zeInit" 3 ∧
      Finds Masking.map Masking.vendor .fatal "zeInit" 3 := by
  have published : ⟨"zeInit", some 3⟩ ∈ Masking.vendor := by decide
  have owned : Masking.map.owner? 3 = some "zeOpen" := by decide
  have mismatches : Masking.map.Mismatches "zeInit" 3 := by
    refine ⟨⟨1, by decide, by decide⟩, fun owner owns => ?_⟩
    rw [owned] at owns
    cases owns
    decide +kernel
  have unmasked : ¬Masking.map.Masks "zeInit" 3 := by
    rintro ⟨owner, owns, starts, _⟩
    rw [owned] at owns
    cases owns
    revert starts
    decide +kernel
  obtain ⟨error, fatal⟩ :=
    checkAgainstVendor_finds_iff Masking.map Masking.vendor "zeInit" 3 published
  exact ⟨published, mismatches, error.mpr ⟨mismatches, unmasked⟩,
    fatal.mpr ⟨mismatches, unmasked, by rw [owned]; rfl⟩⟩

/-- Nothing is found about a number that belongs to another function with a longer name. -/
theorem checkAgainstVendor_misses_masked :
    ⟨"zeInit", some 2⟩ ∈ Masking.vendor ∧ Masking.map.Mismatches "zeInit" 2 ∧
      Masking.map.owner? 2 = some "zeInitDrivers" ∧
      ¬Finds Masking.map Masking.vendor .error "zeInit" 2 ∧
      ¬Finds Masking.map Masking.vendor .fatal "zeInit" 2 := by
  have published : ⟨"zeInit", some 2⟩ ∈ Masking.vendor := by decide
  have owned : Masking.map.owner? 2 = some "zeInitDrivers" := by decide
  have mismatches : Masking.map.Mismatches "zeInit" 2 := by
    refine ⟨⟨1, by decide, by decide⟩, fun owner owns => ?_⟩
    rw [owned] at owns
    cases owns
    decide +kernel
  have nothing : findingsOf Masking.map "zeInit" 2 = [] := by decide +kernel
  refine ⟨published, mismatches, owned, ?_, ?_⟩ <;>
    · rw [finds_iff published, nothing]
      exact List.not_mem_nil

end ApiTrace
