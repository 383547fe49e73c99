import ApiTrace.Proofs.Identity.Conservation

/-!
# What an assignment reports

Every event is true of the records beside it: a recycled pair goes on as the event says and its
number is the claimant's, and a reversioned function is known by the pair that was minted for it.

The pair that a reversioned function leaves stays, unless another function declares its number. Then
it is evicted in the same run and a second event says where it went, so the first event names a pair
that the records no longer hold.
-/

namespace ApiTrace

namespace Assigned

variable {category : Category} {entries : List Entry} {map : IdMap} {deeds : List Deed}
  {assignment : Assignment}

/-! ## Functions that move to another number -/

section Reversioned

variable {function retained minted : String} {retainedNumber mintedNumber : Nat}

/-- A function that moves to another number is known by the minted pair alone. -/
theorem bindings_of_reversioned (assigned : Assigned category entries map deeds assignment)
    (reported : .reversioned function retained retainedNumber minted mintedNumber ∈
      assignment.events) : assignment.bindings function = [(minted, mintedNumber)] := by
  obtain ⟨_, _, _, member, _, _, rfl, rfl⟩ := assigned.exists_reversion_of_reversioned reported
  exact assigned.bindings_eq member rfl

/-- The pair that it leaves was shipped under it. -/
theorem shipped_of_reversioned (assigned : Assigned category entries map deeds assignment)
    (reported : .reversioned function retained retainedNumber minted mintedNumber ∈
      assignment.events) :
    (retained, retainedNumber) ∈ map.entries ∧
      (VersionedName.ofName retained).base = function := by
  obtain ⟨_, _, _, member, rfl, rfl, _⟩ := assigned.exists_reversion_of_reversioned reported
  cases assigned.decided member with
  | reversion _ continues _ =>
      obtain ⟨shipped, read⟩ := IdMap.mem_versionsOf_iff.mp (IdMap.prior?_mem continues)
      exact ⟨shipped, congrArg VersionedName.base read⟩

/-- The pair that it leaves stays if no other function declares its number. -/
theorem pair_mem_of_reversioned (assigned : Assigned category entries map deeds assignment)
    (reported : .reversioned function retained retainedNumber minted mintedNumber ∈
      assignment.events)
    (unclaimed : ∀ entry ∈ entries, entry.declared = some retainedNumber → entry.name = function) :
    ((VersionedName.ofName retained).name, retainedNumber) ∈ assignment.pairs := by
  obtain ⟨shipped, rfl⟩ := assigned.shipped_of_reversioned reported
  obtain ⟨deed, deedMem, versionedEq, rfl⟩ := assigned.exists_deed_of_unclaimed shipped unclaimed
  rw [← versionedEq]
  exact assigned.pair_mem_pairs deedMem

/-- If another function declares its number, the pair that it leaves is evicted. -/
theorem exists_recycled_of_reversioned (assigned : Assigned category entries map deeds assignment)
    (reported : .reversioned function retained retainedNumber minted mintedNumber ∈
      assignment.events)
    {claimant : String} (claims : ⟨claimant, some retainedNumber⟩ ∈ entries)
    (different : claimant ≠ function) :
    ∃ reassigned reassignedNumber,
      .recycled retained retainedNumber claimant reassigned reassignedNumber ∈
        assignment.events := by
  obtain ⟨shipped, rfl⟩ := assigned.shipped_of_reversioned reported
  obtain ⟨record, _, _, eventsEq⟩ := assigned.exists_goesOn_of_claimed shipped claims different
  have kept := List.mem_singleton_self
    (Event.recycled retained retainedNumber claimant record.name record.number)
  rw [← eventsEq] at kept
  exact ⟨record.name, record.number, (List.mem_filter.mp kept).1⟩

end Reversioned

/-! ## Pairs that lose their number -/

section Recycled

variable {evicted claimant reassigned : String} {number reassignedNumber : Nat}

theorem pair_mem_of_recycled (assigned : Assigned category entries map deeds assignment)
    (reported : .recycled evicted number claimant reassigned reassignedNumber ∈
      assignment.events) : (reassigned, reassignedNumber) ∈ assignment.pairs := by
  obtain ⟨_, _, _, _, member, _, _, rfl, rfl⟩ := assigned.exists_evict_of_recycled reported
  exact assigned.pair_mem_pairs member

/-- A pair is evicted for a function that declares its number. -/
theorem declares_of_recycled (assigned : Assigned category entries map deeds assignment)
    (reported : .recycled evicted number claimant reassigned reassignedNumber ∈
      assignment.events) : ⟨claimant, some number⟩ ∈ entries := by
  obtain ⟨_, _, _, _, member, _, rfl, _⟩ := assigned.exists_evict_of_recycled reported
  cases assigned.decided member with
  | evict _ claimed _ => exact (assigned.valid.claimant?_eq_some_iff.mp claimed).1

/-- A declared number belongs to the function that declares it. -/
theorem map_function_of_declares (assigned : Assigned category entries map deeds assignment)
    (declares : ⟨claimant, some number⟩ ∈ entries) :
    (assignment.records.filter fun record => record.number = number).map Record.function =
      [claimant] := by
  obtain ⟨deed, deedMem, current⟩ := assigned.exists_current declares
  have functionEq := ((assigned.current?_eq_some_iff deedMem).mp current).1
  have numberEq := assigned.number_eq_of_declares declares deedMem current
  have single : (assignment.records.filter fun record => record.number = number) =
      [deed.record] := by
    have numbers : (assignment.records.map Record.number).Nodup :=
      List.pairwise_map.mpr (assigned.records_pairwise.imp And.left)
    apply Selection.filter_eq_singleton (.of_map _ numbers) (assigned.record_mem deedMem)
    · simpa using numberEq
    · intro other otherMem same
      apply List.inj_on_of_nodup_map numbers otherMem (assigned.record_mem deedMem)
      rw [numberEq]
      exact of_decide_eq_true same
  rw [single, List.map_singleton, functionEq]

end Recycled

end Assigned

/-- The events of an assignment are true of its records. A reversioned function is known by the
minted pair, and the pair that it leaves stays unless it is evicted for another function; a recycled
pair goes on as reported, and its number is the claimant's. -/
theorem assign_reports (category : Category) (entries : List Entry) (map : IdMap)
    (assignment : Assignment)
    (ended : (assign category entries map).outcome = .ok assignment) :
    (∀ function retained retainedNumber minted mintedNumber,
      .reversioned function retained retainedNumber minted mintedNumber ∈ assignment.events →
        assignment.bindings function = [(minted, mintedNumber)] ∧
        ((∀ entry ∈ entries, entry.declared = some retainedNumber → entry.name = function) →
          ((VersionedName.ofName retained).name, retainedNumber) ∈ assignment.pairs) ∧
        ∀ claimant, ⟨claimant, some retainedNumber⟩ ∈ entries → claimant ≠ function →
          ∃ reassigned reassignedNumber,
            .recycled retained retainedNumber claimant reassigned reassignedNumber ∈
              assignment.events) ∧
    ∀ evicted number claimant reassigned reassignedNumber,
      .recycled evicted number claimant reassigned reassignedNumber ∈ assignment.events →
        (reassigned, reassignedNumber) ∈ assignment.pairs ∧
        (assignment.records.filter fun record => record.number = number).map Record.function =
          [claimant] := by
  obtain ⟨deeds, assigned⟩ := exists_deeds_of_assign ended
  constructor
  · intro function retained retainedNumber minted mintedNumber reported
    refine ⟨assigned.bindings_of_reversioned reported, ?stays, ?evicted⟩
    case stays =>
      intro unclaimed
      exact assigned.pair_mem_of_reversioned reported unclaimed
    case evicted =>
      intro claimant claims different
      exact assigned.exists_recycled_of_reversioned reported claims different
  · intro evicted number claimant reassigned reassignedNumber reported
    constructor
    · exact assigned.pair_mem_of_recycled reported
    · exact assigned.map_function_of_declares (assigned.declares_of_recycled reported)

theorem assign_reports_contested :
    (assign Contested.category Contested.entries Contested.map).outcome =
        .ok Contested.assignment ∧
      Contested.assignment.bindings "zeInit" = [("zeInit_v4", 9)] ∧
      (∃ reassigned reassignedNumber, .recycled "zeInit_v2" 6 "zeOpen" reassigned reassignedNumber ∈
        Contested.assignment.events) ∧
      (Contested.assignment.records.filter fun record => record.number = 6).map Record.function =
        ["zeOpen"] := by
  obtain ⟨reversioned, recycled⟩ := assign_reports Contested.category Contested.entries
    Contested.map Contested.assignment Contested.ended
  obtain ⟨bound, _, evicted⟩ := reversioned "zeInit" "zeInit_v2" 6 "zeInit_v4" 9 (by decide)
  have given := recycled "zeInit_v2" 6 "zeOpen" "zeInit_v3" 7 (by decide)
  exact ⟨Contested.ended, bound, evicted "zeOpen" (by decide) (by decide), given.2⟩

/-- The pair that an event calls retained may be evicted in the same run. -/
theorem assign_reports_evicted :
    (assign Contested.category Contested.entries Contested.map).outcome =
        .ok Contested.assignment ∧
      .reversioned "zeInit" "zeInit_v2" 6 "zeInit_v4" 9 ∈ Contested.assignment.events ∧
      ("zeInit_v2", 6) ∉ Contested.assignment.pairs :=
  ⟨Contested.ended, by decide, by decide +kernel⟩

end ApiTrace
