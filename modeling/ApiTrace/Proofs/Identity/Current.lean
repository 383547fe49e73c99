import ApiTrace.Proofs.Identity.Stability

/-!
# One current number for each function

An assignment knows every function of the header by one current record, and there is no current
record beside these. A function that declares a number is known by it, whether the number is new,
was shipped under any version of the function, or belonged to another function. The records are
strictly ascending by number and none has the reserved zero.
-/

namespace ApiTrace

namespace Assigned

variable {category : Category} {entries : List Entry} {map : IdMap} {deeds : List Deed}
  {assignment : Assignment}

/-- The current decisions of a run are its current records, function by function. -/
private theorem filterMap_current?_eq (assigned : Assigned category entries map deeds assignment) :
    (deeds.filterMap fun deed => deed.move.current?) =
      ((deeds.map Deed.record).filter fun record => record.origin = .current).map
        Record.function := by
  rw [List.filter_map, List.map_map, ← List.filterMap_eq_map, List.filterMap_filter]
  apply List.filterMap_congr
  intro deed member
  rw [(assigned.yields deed member).current?]
  simp

/-- The current records are of the functions of the header, one of each. -/
theorem function_current_perm (assigned : Assigned category entries map deeds assignment) :
    ((assignment.records.filter fun record => record.origin = .current).map Record.function).Perm
      (entries.map Entry.name) := by
  have planned : (deeds.filterMap fun deed => deed.move.current?) = entries.map Entry.name :=
    (assigned.filterMap_move _).trans filterMap_current?_plan
  rw [← planned, assigned.filterMap_current?_eq]
  exact (assigned.records_perm.filter _).map _

/-- A function of the header has one current record, with the number that it declares. -/
theorem exists_current_record (assigned : Assigned category entries map deeds assignment)
    {entry : Entry} (member : entry ∈ entries) :
    ∃ record, (assignment.records.filter fun record =>
        record.function = entry.name ∧ record.origin = .current) = [record] ∧
      ∀ number ∈ entry.declared, record.number = number := by
  obtain ⟨deed, deedMem, current⟩ := assigned.exists_current member
  refine ⟨deed.record, assigned.filter_current deedMem current, fun number declares => ?_⟩
  have declared : ⟨entry.name, some number⟩ ∈ entries := by
    rwa [← Option.mem_def.mp declares]
  exact assigned.number_eq_of_declares declared deedMem current

end Assigned

/-- Every function of the header has exactly one current record, with its declared number if it
declares one, and the records are strictly ascending by number, without zero. -/
theorem assign_currents (category : Category) (entries : List Entry) (map : IdMap)
    (assignment : Assignment)
    (ended : (assign category entries map).outcome = .ok assignment) :
    ((assignment.records.filter fun record => record.origin = .current).map
        Record.function).Perm (entries.map Entry.name) ∧
      (∀ entry ∈ entries, ∃ record, (assignment.records.filter fun record =>
          record.function = entry.name ∧ record.origin = .current) = [record] ∧
        ∀ number ∈ entry.declared, record.number = number) ∧
      assignment.records.Pairwise (fun left right => left.number < right.number) ∧
      ∀ record ∈ assignment.records, record.number ≠ 0 := by
  obtain ⟨deeds, assigned⟩ := exists_deeds_of_assign ended
  refine ⟨assigned.function_current_perm, ?each, assigned.records_ascending, ?nonzero⟩
  case each =>
    intro entry member
    exact assigned.exists_current_record member
  case nonzero =>
    intro record recordMem
    obtain ⟨deed, deedMem, rfl⟩ := assigned.mem_records_iff.mp recordMem
    exact Nat.ne_of_gt (assigned.number_pos deedMem)

theorem assign_currents_contested :
    (assign Contested.category Contested.entries Contested.map).outcome =
        .ok Contested.assignment ∧
      (∃ record, (Contested.assignment.records.filter fun record =>
          record.function = "zeOpen" ∧ record.origin = .current) = [record] ∧ record.number = 6) ∧
      Contested.assignment.records.Pairwise fun left right => left.number < right.number := by
  obtain ⟨_, each, ascending, _⟩ := assign_currents Contested.category Contested.entries
    Contested.map Contested.assignment Contested.ended
  obtain ⟨record, single, declared⟩ := each ⟨"zeOpen", some 6⟩ (by decide)
  exact ⟨Contested.ended, ⟨record, single, declared 6 rfl⟩, ascending⟩

end ApiTrace
