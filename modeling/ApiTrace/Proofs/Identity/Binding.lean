import ApiTrace.Generated.LookupTable
import ApiTrace.Proofs.Identity.Overtaking

/-!
# The pair by which a function is known

Two runs for one header know a function by the same pair exactly if no evicted version of it
overtakes that pair. If this holds of every function, the lookups that a test suite runs are the
same text.
-/

namespace ApiTrace

/-! ## The lookups of a test suite -/

/-- The functions of the header with their numbers, by ascending number. -/
def Assignment.currents (assignment : Assignment) : List (String × Nat) :=
  (assignment.records.filter fun record => record.origin = .current).map fun record =>
    (record.function, record.number)

/-- The lookups depend on the functions of the header and their numbers alone. -/
theorem renderLookupChecks_eq (assignment : Assignment) :
    renderLookupChecks assignment = String.join (assignment.currents.map fun pair =>
      lookupCheck assignment.category.apiGroup ⟨pair.1, pair.2, none, .current⟩) := by
  rw [renderLookupChecks, Assignment.currents, List.map_map]
  rfl

namespace Assigned

variable {category : Category} {entries : List Entry} {map : IdMap} {deeds : List Deed}
  {assignment : Assignment}

theorem currents_ascending (assigned : Assigned category entries map deeds assignment) :
    assignment.currents.Pairwise fun left right => left.2 < right.2 :=
  List.pairwise_map.mpr (assigned.records_ascending.filter _)

theorem nodup_currents (assigned : Assigned category entries map deeds assignment) :
    assignment.currents.Nodup :=
  assigned.currents_ascending.imp fun before same => Nat.ne_of_lt before (congrArg Prod.snd same)

theorem mem_currents_iff (assigned : Assigned category entries map deeds assignment)
    {function : String} {number : Nat} :
    (function, number) ∈ assignment.currents ↔
      ∃ deed ∈ deeds, deed.move.current? = some function ∧ deed.record.number = number := by
  simp only [Assignment.currents, List.mem_map, List.mem_filter, decide_eq_true_eq]
  constructor
  · rintro ⟨record, ⟨recordMem, isCurrent⟩, pairEq⟩
    obtain ⟨deed, deedMem, rfl⟩ := assigned.mem_records_iff.mp recordMem
    cases pairEq
    exact ⟨deed, deedMem, (assigned.current?_eq_some_iff deedMem).mpr ⟨rfl, isCurrent⟩, rfl⟩
  · rintro ⟨deed, deedMem, isCurrent, rfl⟩
    obtain ⟨rfl, current⟩ := (assigned.current?_eq_some_iff deedMem).mp isCurrent
    exact ⟨deed.record, ⟨assigned.record_mem deedMem, current⟩, rfl⟩

end Assigned

/-- Current records are those of the header's functions. -/
theorem Executed.exists_entry_of_current {category : Category} {entries : List Entry} {map : IdMap}
    {deeds : List Deed} (executed : Executed category entries map deeds) {deed : Deed}
    (member : deed ∈ deeds) {function : String} (isCurrent : deed.move.current? = some function) :
    ∃ entry ∈ entries, entry.name = function := by
  apply List.mem_map.mp
  rw [← filterMap_current?_plan, ← executed.filterMap_move]
  exact List.mem_filterMap.mpr ⟨deed, member, isCurrent⟩

/-- If no function is overtaken, the next run has the same functions under the same numbers. -/
theorem ReadBack.currents_again {category : Category} {entries : List Entry} {map shipped : IdMap}
    {deeds deedsAgain : List Deed} {assignment again : Assignment}
    (readBack : ReadBack category entries map deeds assignment shipped)
    (assignedAgain : Assigned category entries shipped deedsAgain again)
    (ahead : ∀ entry ∈ entries, ¬Overtaken entries map entry) :
    again.currents = assignment.currents := by
  have number_eq : ∀ {deed deedAgain : Deed} {function : String}, deed ∈ deeds →
      deedAgain ∈ deedsAgain → deed.move.current? = some function →
      deedAgain.move.current? = some function → deedAgain.record.number = deed.record.number := by
    intro deed deedAgain function deedMem againMem isCurrent isCurrentAgain
    obtain ⟨entry, entryMem, rfl⟩ := readBack.exists_entry_of_current deedMem isCurrent
    have samePair := (readBack.pair_again_eq_iff assignedAgain.toExecuted entryMem deedMem isCurrent
      againMem isCurrentAgain).mpr (ahead entry entryMem)
    exact congrArg Prod.snd samePair
  have perm : again.currents.Perm assignment.currents := by
    apply (List.perm_ext_iff_of_nodup assignedAgain.nodup_currents readBack.nodup_currents).mpr
    rintro ⟨function, number⟩
    rw [assignedAgain.mem_currents_iff, readBack.mem_currents_iff]
    constructor
    · rintro ⟨deedAgain, againMem, isCurrentAgain, rfl⟩
      obtain ⟨entry, entryMem, rfl⟩ := assignedAgain.exists_entry_of_current againMem isCurrentAgain
      obtain ⟨deed, deedMem, isCurrent⟩ := readBack.exists_current entryMem
      exact ⟨deed, deedMem, isCurrent, (number_eq deedMem againMem isCurrent isCurrentAgain).symm⟩
    · rintro ⟨deed, deedMem, isCurrent, rfl⟩
      obtain ⟨entry, entryMem, rfl⟩ := readBack.exists_entry_of_current deedMem isCurrent
      obtain ⟨deedAgain, againMem, isCurrentAgain⟩ := assignedAgain.exists_current entryMem
      exact ⟨deedAgain, againMem, isCurrentAgain,
        number_eq deedMem againMem isCurrent isCurrentAgain⟩
  exact perm.eq_of_pairwise (fun _ _ _ _ before after => absurd before (Nat.not_lt_of_lt after))
    assignedAgain.currents_ascending readBack.currents_ascending

/-- Numbering again what an assignment shipped, a function is known by the same pair exactly if it
is not overtaken. If none is, the lookups of the test suite are the same text. -/
theorem assign_rebinds_iff (category : Category) (entries : List Entry) (map : IdMap)
    (untagged : ∀ entry ∈ entries, entry.Untagged) (assignment : Assignment)
    (ended : (assign category entries map).outcome = .ok assignment) :
    ∃ shipped again, assignment.toMap = .ok shipped ∧
      (assign category entries shipped).outcome = .ok again ∧
      (∀ entry ∈ entries, ∃ before after, assignment.bindings entry.name = [before] ∧
        again.bindings entry.name = [after] ∧ (after = before ↔ ¬Overtaken entries map entry)) ∧
      ((∀ entry ∈ entries, ¬Overtaken entries map entry) →
        renderLookupChecks again = renderLookupChecks assignment) := by
  obtain ⟨deeds, assigned⟩ := exists_deeds_of_assign ended
  obtain ⟨shipped, read⟩ := assigned.exists_toMap
  have readBack : ReadBack category entries map deeds assignment shipped :=
    ⟨assigned, untagged, read⟩
  obtain ⟨again, endedAgain, _, _⟩ := readBack.exists_again
  obtain ⟨deedsAgain, assignedAgain⟩ := exists_deeds_of_assign endedAgain
  refine ⟨shipped, again, read, endedAgain, ?bindings, ?lookups⟩
  case bindings =>
    intro entry entryMem
    obtain ⟨deed, deedMem, isCurrent⟩ := assigned.exists_current entryMem
    obtain ⟨deedAgain, againMem, isCurrentAgain⟩ := assignedAgain.exists_current entryMem
    exact ⟨_, _, assigned.bindings_eq deedMem isCurrent,
      assignedAgain.bindings_eq againMem isCurrentAgain,
      readBack.pair_again_eq_iff assignedAgain.toExecuted entryMem deedMem isCurrent againMem
        isCurrentAgain⟩
  case lookups =>
    intro ahead
    rw [renderLookupChecks_eq, renderLookupChecks_eq, category_of_assign endedAgain,
      category_of_assign ended, readBack.currents_again assignedAgain ahead]

/-!
## An overtaken function

A function goes by its second version. Its first version is evicted and goes on as the third.
-/

namespace Overtaking

/-- A new function claims the number of the first version. -/
def entries : List Entry :=
  [⟨"zeInit", none⟩, ⟨"zeOpen", some 5⟩]

/-- What the first run gives. -/
def assignment : Assignment where
  category := Contested.category
  records := [
    ⟨"zeOpen", 5, none, .current⟩,
    ⟨"zeInit", 6, some 2, .current⟩,
    ⟨"zeInit", 7, some 3, .residual⟩]
  events := [.recycled "zeInit" 5 "zeOpen" "zeInit_v3" 7]

/-- What is read back. -/
def shipped : IdMap where
  numbers := ⟨[("zeInit_v2", 6), ("zeInit_v3", 7), ("zeOpen", 5)], by decide⟩
  distinct := by decide
  positive := by decide
  nextFree := 8

/-- What the second run gives. -/
def again : Assignment where
  category := Contested.category
  records := [
    ⟨"zeOpen", 5, none, .current⟩,
    ⟨"zeInit", 6, some 2, .residual⟩,
    ⟨"zeInit", 7, some 3, .current⟩]
  events := []

theorem ended : (assign Contested.category entries Contested.map).outcome = .ok assignment := by
  cbv

theorem read : assignment.toMap = .ok shipped := by
  decide +kernel

theorem ended_again : (assign Contested.category entries shipped).outcome = .ok again := by
  cbv

theorem untagged : ∀ entry ∈ entries, entry.Untagged := by
  decide +kernel

end Overtaking

theorem assign_rebinds_overtaking :
    (∀ entry ∈ Overtaking.entries, entry.Untagged) ∧
      (assign Contested.category Overtaking.entries Contested.map).outcome =
        .ok Overtaking.assignment ∧
      Overtaken Overtaking.entries Contested.map ⟨"zeInit", none⟩ ∧
      ∃ shipped again, Overtaking.assignment.toMap = .ok shipped ∧
        (assign Contested.category Overtaking.entries shipped).outcome = .ok again ∧
        (∃ before after, Overtaking.assignment.bindings "zeInit" = [before] ∧
          again.bindings "zeInit" = [after] ∧ after ≠ before) ∧
        ∃ pair, Overtaking.assignment.bindings "zeOpen" = [pair] ∧
          again.bindings "zeOpen" = [pair] := by
  obtain ⟨shipped, again, read, endedAgain, bindings, _⟩ := assign_rebinds_iff Contested.category
    Overtaking.entries Contested.map Overtaking.untagged Overtaking.assignment Overtaking.ended
  have overtaken : Overtaken Overtaking.entries Contested.map ⟨"zeInit", none⟩ :=
    ⟨rfl, ⟨"zeInit", 5, none⟩, by decide +kernel, by decide +kernel, "zeOpen", by decide, by decide⟩
  obtain ⟨before, after, bound, boundAgain, same⟩ := bindings ⟨"zeInit", none⟩ (by decide)
  obtain ⟨pair, _, bindsOpen, bindsOpenAgain, sameOpen⟩ := bindings ⟨"zeOpen", some 5⟩ (by decide)
  rw [sameOpen.mpr fun overtaken => nomatch overtaken.1] at bindsOpenAgain
  exact ⟨Overtaking.untagged, Overtaking.ended, overtaken, shipped, again, read, endedAgain,
    ⟨before, after, bound, boundAgain, fun unchanged => same.mp unchanged overtaken⟩,
    pair, bindsOpen, bindsOpenAgain⟩

/-- The next run may know a function by another pair, and its lookups are then another text. -/
theorem assign_rebinds_overtaken :
    (assign Contested.category Overtaking.entries Contested.map).outcome =
        .ok Overtaking.assignment ∧
      Overtaking.assignment.toMap = .ok Overtaking.shipped ∧
      (assign Contested.category Overtaking.entries Overtaking.shipped).outcome =
        .ok Overtaking.again ∧
      Overtaking.assignment.bindings "zeInit" = [("zeInit_v2", 6)] ∧
      Overtaking.again.bindings "zeInit" = [("zeInit_v3", 7)] ∧
      renderLookupChecks Overtaking.again ≠ renderLookupChecks Overtaking.assignment :=
  ⟨Overtaking.ended, Overtaking.read, Overtaking.ended_again, by decide +kernel, by decide +kernel,
    by decide +kernel⟩

end ApiTrace
