import ApiTrace.Proofs.Identity.Course
import ApiTrace.Proofs.Identity.Distinctness

/-!
# The order of the header

The decisions about a function depend on the entries as a set, so entries in another order give the
same decisions in another order, and those that raise one function stay as they are: they belong to
its entry and then to the residuals. By the course of a run, the order of the header decides nothing
but which function gets which fresh number.
-/

namespace ApiTrace

section Plan

variable {entries others : List Entry} {map : IdMap}

theorem WellDeclared.of_perm (valid : WellDeclared entries) (reordered : entries.Perm others) :
    WellDeclared others where
  names := (reordered.map Entry.name).nodup_iff.mp valid.names
  nonzero entry member := valid.nonzero entry (reordered.mem_iff.mpr member)
  numbers := (reordered.filterMap Entry.declared).nodup_iff.mp valid.numbers

theorem WellDeclared.claimant?_eq_of_perm (valid : WellDeclared entries)
    (reordered : entries.Perm others) (number : Nat) (base : String) :
    claimant? entries number base = claimant? others number base := by
  apply Option.ext
  intro claimant
  rw [valid.claimant?_eq_some_iff, (valid.of_perm reordered).claimant?_eq_some_iff,
    reordered.mem_iff]

theorem WellDeclared.keepOrEvict_eq_of_perm (valid : WellDeclared entries)
    (reordered : entries.Perm others) (base : String) (prior : Prior) (origin : Origin) :
    keepOrEvict entries base prior origin = keepOrEvict others base prior origin := by
  rw [keepOrEvict, keepOrEvict, valid.claimant?_eq_of_perm reordered]

theorem WellDeclared.movesOfEntry_eq_of_perm (valid : WellDeclared entries)
    (reordered : entries.Perm others) :
    movesOfEntry entries map = movesOfEntry others map := by
  funext entry
  simp only [movesOfEntry, valid.keepOrEvict_eq_of_perm reordered]

theorem WellDeclared.moveOfResidual_eq_of_perm (valid : WellDeclared entries)
    (reordered : entries.Perm others) : moveOfResidual entries = moveOfResidual others := by
  funext pair
  exact valid.keepOrEvict_eq_of_perm reordered _ _ _

theorem residuals_eq_of_perm (reordered : entries.Perm others) :
    residuals entries map = residuals others map := by
  have same (name : String) :
      (continued entries map).contains name = (continued others map).contains name := by
    rw [Bool.eq_iff_iff, List.contains_iff_mem, List.contains_iff_mem]
    exact (reordered.filterMap _).mem_iff
  simp only [residuals, same]

/-- Only one entry raises a function: its own. -/
private theorem pairwise_raising (valid : WellDeclared entries) (base : String) :
    entries.Pairwise fun first second =>
      ((movesOfEntry others map first).filter fun move => move.bumped? = some base) = [] ∨
        ((movesOfEntry others map second).filter fun move => move.bumped? = some base) = [] := by
  have name_eq {entry : Entry}
      (raises : ((movesOfEntry others map entry).filter fun move => move.bumped? = some base) ≠
        []) :
      entry.name = base := by
    obtain ⟨move, kept⟩ := List.exists_mem_of_ne_nil _ raises
    obtain ⟨decides, bumps⟩ := List.mem_filter.mp kept
    rw [← function_of_mem_movesOfEntry decides,
      Move.function_of_bumped? (of_decide_eq_true bumps)]
  apply (List.pairwise_map.mp valid.names).imp
  intro first second different
  by_contra raises
  push Not at raises
  exact different ((name_eq raises.1).trans (name_eq raises.2).symm)

theorem reordered_plan (valid : WellDeclared entries) (reordered : entries.Perm others) :
    Reordered (plan entries map) (plan others map) := by
  have planEq : plan others map = others.flatMap (movesOfEntry entries map) ++
      (residuals entries map).map (moveOfResidual entries) := by
    rw [plan, ← valid.movesOfEntry_eq_of_perm reordered, ← residuals_eq_of_perm reordered,
      ← valid.moveOfResidual_eq_of_perm reordered]
  rw [planEq]
  constructor
  · exact (reordered.flatMap_right _).append_right _
  · intro base
    rw [plan, List.filter_append, List.filter_append, List.filter_flatMap, List.filter_flatMap]
    congr 1
    exact Selection.flatMap_eq_of_perm reordered (pairwise_raising valid base)

theorem alike_spaceOf (category : Category) (reordered : entries.Perm others) :
    (spaceOf category entries map).Alike (spaceOf category others map) where
  map_eq := rfl
  taken_iff number := by
    rw [mem_taken_spaceOf_iff, mem_taken_spaceOf_iff]
    simp only [reordered.mem_iff]

end Plan

/-! ## The courses of reordered entries -/

section Course

variable {category : Category} {entries others : List Entry} {map : IdMap}

theorem Deed.Apart.move_ne {earlier later : Deed} (apart : earlier.Apart later) :
    earlier.move ≠ later.move := by
  obtain ⟨move, record⟩ := earlier
  obtain ⟨otherMove, otherRecord⟩ := later
  intro same
  dsimp only at same
  subst same
  cases move with
  | adopt function number => exact apart.introduced function rfl rfl
  | mint function => exact apart.introduced function rfl rfl
  | keep base prior origin => exact apart.shipped _ rfl rfl
  | evict base prior claimant origin => exact apart.shipped _ rfl rfl
  | reversion function prior number => exact apart.declared number rfl rfl

/-- No decision is made twice. -/
theorem Executed.nodup_plan {deeds : List Deed} (executed : Executed category entries map deeds) :
    (plan entries map).Nodup := by
  rw [← executed.moves]
  exact List.pairwise_map.mpr (executed.pairwise_apart.imp Deed.Apart.move_ne)

/-- A decision leads to the same record in another order, up to a fresh number. -/
theorem outlines_courseOf_perm {deeds : List Deed}
    (executed : Executed category entries map deeds) (reordered : entries.Perm others) :
    ((courseOf category entries map).map Deed.outline).Perm
      ((courseOf category others map).map Deed.outline) :=
  (reordered_plan executed.valid reordered).outlines_perm (alike_spaceOf category reordered)
    executed.nodup_plan

theorem numbers_courseOf_perm (category : Category) (map : IdMap) (valid : WellDeclared entries)
    (reordered : entries.Perm others) :
    ((courseOf category entries map).map fun deed => deed.record.number).Perm
      ((courseOf category others map).map fun deed => deed.record.number) :=
  (reordered_plan valid reordered).numbers_perm (alike_spaceOf category reordered)

private theorem pairwise_distinct_iff {records : List Record} :
    records.Pairwise Record.Distinct ↔
      (records.map Record.number).Nodup ∧ (records.map Record.name).Nodup := by
  rw [List.Nodup, List.Nodup, List.pairwise_map, List.pairwise_map, ← List.pairwise_and_iff]
  rfl

/-- Names are part of the outline, so records that do not collide in one order do not collide in
another. -/
theorem distinct_courseOf_of_perm {deeds : List Deed}
    (executed : Executed category entries map deeds) (reordered : entries.Perm others)
    (distinct : ((courseOf category entries map).map Deed.record).Pairwise Record.Distinct) :
    ((courseOf category others map).map Deed.record).Pairwise Record.Distinct := by
  have numbersPerm := numbers_courseOf_perm category map executed.valid reordered
  have namesPerm := (outlines_courseOf_perm executed reordered).map Record.name
  rw [pairwise_distinct_iff, List.map_map, List.map_map] at distinct ⊢
  rw [List.map_map, List.map_map] at namesPerm
  have names (deed : Deed) : deed.outline.name = deed.record.name := by
    simp [Record.name]
  simp only [Function.comp_def, names] at distinct namesPerm ⊢
  exact ⟨numbersPerm.nodup_iff.mp distinct.1, namesPerm.nodup_iff.mp distinct.2⟩

theorem exists_assign_of_perm (reordered : entries.Perm others) {assignment : Assignment}
    (ended : (assign category entries map).outcome = .ok assignment) :
    ∃ other, (assign category others map).outcome = .ok other := by
  obtain ⟨valid, numbering, carried, distinct, rfl⟩ := outcome_assign_eq_ok_iff.mp ended
  obtain ⟨executed, recordsEq, _⟩ := executed_courseOf valid carried
  obtain ⟨after, otherCarried⟩ := ((reordered_plan valid reordered).exists_foldlM_iff
    (alike_spaceOf category reordered)).mp ⟨numbering, carried⟩
  obtain ⟨_, otherRecordsEq, _⟩ := executed_courseOf (valid.of_perm reordered) otherCarried
  rw [recordsEq] at distinct
  refine ⟨_, outcome_assign_eq_ok (valid.of_perm reordered) otherCarried ?_⟩
  rw [otherRecordsEq]
  exact distinct_courseOf_of_perm executed reordered distinct

/-- A record with a number that is not fresh is the same in another order. -/
theorem mem_records_of_perm (reordered : entries.Perm others) {assignment other : Assignment}
    (ended : (assign category entries map).outcome = .ok assignment)
    (otherEnded : (assign category others map).outcome = .ok other) {record : Record}
    (taken : record.number ∈ takenNumbers entries map) (member : record ∈ assignment.records) :
    record ∈ other.records := by
  have assigned := assigned_courseOf ended
  obtain ⟨deed, deedMem, rfl⟩ := assigned.mem_records_iff.mp member
  have given : ¬deed.move.mints := fun mints =>
    ((assigned.yields deed deedMem).fresh mints).untaken taken
  obtain ⟨twin, twinMem, moveEq, outlineEq⟩ := (reordered_plan assigned.valid reordered).exists_twin
    (alike_spaceOf category reordered) deedMem
  have twinGiven : ¬twin.move.mints := by rwa [moveEq]
  rw [Deed.outline_of_not_mints given, Deed.outline_of_not_mints twinGiven] at outlineEq
  exact (assigned_courseOf otherEnded).mem_records_iff.mpr ⟨twin, twinMem, outlineEq⟩

theorem numbers_eq_of_perm (reordered : entries.Perm others) {assignment other : Assignment}
    (ended : (assign category entries map).outcome = .ok assignment)
    (otherEnded : (assign category others map).outcome = .ok other) :
    assignment.records.map Record.number = other.records.map Record.number := by
  have assigned := assigned_courseOf ended
  have otherAssigned := assigned_courseOf otherEnded
  have coursePerm := numbers_courseOf_perm category map assigned.valid reordered
  have perm : (assignment.records.map Record.number).Perm (other.records.map Record.number) := by
    have numbersPerm := assigned.records_perm.map Record.number
    have otherNumbersPerm := otherAssigned.records_perm.map Record.number
    rw [List.map_map] at numbersPerm otherNumbersPerm
    exact numbersPerm.trans (coursePerm.trans otherNumbersPerm.symm)
  exact perm.eq_of_pairwise (fun _ _ _ _ => Nat.le_antisymm)
    (List.pairwise_map.mpr assigned.records_sorted)
    (List.pairwise_map.mpr otherAssigned.records_sorted)

/-- The function, the version and the origin of a record do not depend on the order. -/
theorem traits_perm (reordered : entries.Perm others) {assignment other : Assignment}
    (ended : (assign category entries map).outcome = .ok assignment)
    (otherEnded : (assign category others map).outcome = .ok other) :
    (assignment.records.map fun record => (record.function, record.version, record.origin)).Perm
      (other.records.map fun record => (record.function, record.version, record.origin)) := by
  have assigned := assigned_courseOf ended
  let traits (record : Record) := (record.function, record.version, record.origin)
  have outlined (deed : Deed) : traits deed.outline = traits deed.record := by
    simp [traits]
  have coursePerm := (outlines_courseOf_perm assigned.toExecuted reordered).map traits
  have recordsPerm := assigned.records_perm.map traits
  have otherRecordsPerm := (assigned_courseOf otherEnded).records_perm.map traits
  rw [List.map_map] at recordsPerm otherRecordsPerm
  simp only [List.map_map, Function.comp_def, outlined] at coursePerm
  exact recordsPerm.trans (coursePerm.trans otherRecordsPerm.symm)

end Course

/-- The order of the header decides only which function gets which fresh number: an assignment of
reordered entries succeeds alike, has the same functions, versions and origins and the same numbers,
and the same records with numbers that are not fresh. -/
theorem assign_perm (category : Category) (entries others : List Entry) (map : IdMap)
    (reordered : entries.Perm others) :
    ((∃ assignment, (assign category entries map).outcome = .ok assignment) ↔
      ∃ assignment, (assign category others map).outcome = .ok assignment) ∧
    ∀ assignment other, (assign category entries map).outcome = .ok assignment →
      (assign category others map).outcome = .ok other →
      (assignment.records.map fun record => (record.function, record.version, record.origin)).Perm
          (other.records.map fun record => (record.function, record.version, record.origin)) ∧
        assignment.records.map Record.number = other.records.map Record.number ∧
        ∀ record : Record, record.number ∈ takenNumbers entries map →
          (record ∈ assignment.records ↔ record ∈ other.records) := by
  constructor
  · constructor
    · rintro ⟨assignment, ended⟩
      exact exists_assign_of_perm reordered ended
    · rintro ⟨assignment, ended⟩
      exact exists_assign_of_perm reordered.symm ended
  · intro assignment other ended otherEnded
    refine ⟨traits_perm reordered ended otherEnded, numbers_eq_of_perm reordered ended otherEnded,
      ?_⟩
    intro record taken
    constructor
    · exact mem_records_of_perm reordered ended otherEnded taken
    · exact mem_records_of_perm reordered.symm otherEnded ended
        (((alike_spaceOf category reordered).taken_iff _).mp taken)

namespace Contested

/-- What the numbering gives if the new function comes first. -/
def turned : Assignment where
  category := category
  records := [
    ⟨"zeInit", 5, none, .residual⟩,
    ⟨"zeOpen", 6, none, .current⟩,
    ⟨"zeNew", 7, none, .current⟩,
    ⟨"zeInit", 8, some 3, .residual⟩,
    ⟨"zeInit", 9, some 4, .current⟩]
  events := [
    .recycled "zeInit_v2" 6 "zeOpen" "zeInit_v3" 8,
    .reversioned "zeInit" "zeInit_v2" 6 "zeInit_v4" 9]

theorem ended_turned : (assign category entries.reverse map).outcome = .ok turned := by
  cbv

end Contested

theorem assign_perm_contested :
    Contested.entries.Perm Contested.entries.reverse ∧
      (assign Contested.category Contested.entries Contested.map).outcome =
        .ok Contested.assignment ∧
      (assign Contested.category Contested.entries.reverse Contested.map).outcome =
        .ok Contested.turned ∧
      Contested.assignment.records.map Record.number = Contested.turned.records.map Record.number ∧
      9 ∈ takenNumbers Contested.entries Contested.map ∧
      ⟨"zeInit", 9, some 4, .current⟩ ∈ Contested.turned.records := by
  have reordered : Contested.entries.Perm Contested.entries.reverse :=
    (List.reverse_perm Contested.entries).symm
  obtain ⟨_, same⟩ := assign_perm Contested.category Contested.entries Contested.entries.reverse
    Contested.map reordered
  obtain ⟨_, numbers, given⟩ := same Contested.assignment Contested.turned Contested.ended
    Contested.ended_turned
  have taken : 9 ∈ takenNumbers Contested.entries Contested.map := by decide
  exact ⟨reordered, Contested.ended, Contested.ended_turned, numbers, taken,
    (given ⟨"zeInit", 9, some 4, .current⟩ taken).mp (by decide)⟩

end ApiTrace
