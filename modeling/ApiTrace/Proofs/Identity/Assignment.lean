import ApiTrace.Proofs.Identity.Check
import ApiTrace.Proofs.Identity.Deed

/-!
# Assignments as deeds

An assignment that succeeds had well-declared entries, has a log of deeds that carries out the plan,
and its records are those of the deeds, pairwise distinct, by ascending number. `Assigned` collects
this; the theorems about assignments start from it.
-/

namespace ApiTrace

/-- What the numbering of `entries` after `map` works with. -/
def spaceOf (category : Category) (entries : List Entry) (map : IdMap) : NumberSpace :=
  ⟨category, map, takenNumbers entries map⟩

theorem mem_taken_spaceOf_iff {category : Category} {entries : List Entry} {map : IdMap}
    {number : Nat} :
    number ∈ (spaceOf category entries map).taken ↔
      number ∈ map.entries.map Prod.snd ∨ ∃ entry ∈ entries, entry.declared = some number := by
  simp [spaceOf, takenNumbers]

/-- How an assignment ends, without its journal. -/
theorem outcome_assign (category : Category) (entries : List Entry) (map : IdMap) :
    (assign category entries map).outcome = do
      checkEntries category.key [] entries
      let numbering ← (plan entries map).foldlM
        (Numbering.carryOut (spaceOf category entries map)) {}
      checkRecords category.key [] numbering.records
      return ⟨category, sortRecords numbering.records, numbering.events⟩ := by
  unfold assign
  rw [Journalled.outcome_bind]
  congr 1
  funext _
  rw [Journalled.outcome_bind, Journalled.outcome_foldlM]
  simp only [Numbering.outcome_step]
  congr 1
  funext numbering
  rw [Journalled.outcome_bind]
  rfl

/-- An assignment succeeds exactly if its entries are well declared, its plan can be carried out and
no two records collide. -/
theorem outcome_assign_eq_ok_iff {category : Category} {entries : List Entry} {map : IdMap}
    {assignment : Assignment} :
    (assign category entries map).outcome = .ok assignment ↔
      WellDeclared entries ∧ ∃ numbering,
        (plan entries map).foldlM (Numbering.carryOut (spaceOf category entries map)) {} =
          .ok numbering ∧
        numbering.records.Pairwise Record.Distinct ∧
        assignment = ⟨category, sortRecords numbering.records, numbering.events⟩ := by
  rw [outcome_assign]
  constructor
  · intro ended
    obtain ⟨_, entriesPass, ended⟩ := bind_eq_ok ended
    obtain ⟨numbering, carried, ended⟩ := bind_eq_ok ended
    obtain ⟨_, recordsPass, ended⟩ := bind_eq_ok ended
    cases ended
    exact ⟨checkEntries_nil_eq_ok_iff.mp entriesPass, numbering, carried,
      checkRecords_nil_eq_ok_iff.mp recordsPass, rfl⟩
  · rintro ⟨valid, numbering, carried, distinct, rfl⟩
    have entriesPass : checkEntries category.key [] entries = .ok () :=
      checkEntries_nil_eq_ok_iff.mpr valid
    have recordsPass : checkRecords category.key [] numbering.records = .ok () :=
      checkRecords_nil_eq_ok_iff.mpr distinct
    simp only [entriesPass, carried, recordsPass, bind, Except.bind, pure, Except.pure]

/-- What was carried out without a collision is an assignment. -/
theorem outcome_assign_eq_ok {category : Category} {entries : List Entry} {map : IdMap}
    {numbering : Numbering} (valid : WellDeclared entries)
    (carried : (plan entries map).foldlM
      (Numbering.carryOut (spaceOf category entries map)) {} = .ok numbering)
    (distinct : numbering.records.Pairwise Record.Distinct) :
    (assign category entries map).outcome =
      .ok ⟨category, sortRecords numbering.records, numbering.events⟩ :=
  outcome_assign_eq_ok_iff.mpr ⟨valid, numbering, carried, distinct, rfl⟩

theorem sortRecords_perm (records : List Record) : (sortRecords records).Perm records :=
  List.mergeSort_perm _ _

theorem sortRecords_pairwise (records : List Record) :
    (sortRecords records).Pairwise fun left right => left.number ≤ right.number := by
  have sorted := @List.pairwise_mergeSort Record (fun left right => left.number ≤ right.number)
    (fun first second third => by simpa using Nat.le_trans)
    (fun first second => by simpa using Nat.le_total first.number second.number) records
  simpa [sortRecords] using sorted

/-- A plan for well-declared entries that was carried out, before its records are checked. -/
structure Executed (category : Category) (entries : List Entry) (map : IdMap) (deeds : List Deed) :
    Prop where
  valid : WellDeclared entries
  moves : deeds.map Deed.move = plan entries map
  yields : ∀ deed ∈ deeds, Yields (spaceOf category entries map) deed.move deed.record
  minted : deeds.Pairwise fun earlier later =>
    earlier.move.mints → later.move.mints → earlier.record.number < later.record.number
  bumped : deeds.Pairwise fun earlier later => ∀ base,
    earlier.move.bumped? = some base → later.move.bumped? = some base →
      earlier.record.rank < later.record.rank

theorem category_of_assign {category : Category} {entries : List Entry} {map : IdMap}
    {assignment : Assignment} (ended : (assign category entries map).outcome = .ok assignment) :
    assignment.category = category := by
  obtain ⟨_, numbering, _, _, rfl⟩ := outcome_assign_eq_ok_iff.mp ended
  rfl

/-- All that is known of an assignment that succeeded: its entries, its deeds and its records. -/
structure Assigned (category : Category) (entries : List Entry) (map : IdMap) (deeds : List Deed)
    (assignment : Assignment) : Prop extends Executed category entries map deeds where
  distinct : (deeds.map Deed.record).Pairwise Record.Distinct
  records_eq : assignment.records = sortRecords (deeds.map Deed.record)
  events_eq : assignment.events = deeds.filterMap Deed.event?

/-- The deeds of an assignment, whether or not it succeeds. -/
def courseOf (category : Category) (entries : List Entry) (map : IdMap) : List Deed :=
  deedsOf (spaceOf category entries map) {} (plan entries map)

/-- What was carried out is the course. -/
theorem executed_courseOf {category : Category} {entries : List Entry} {map : IdMap}
    {numbering : Numbering} (valid : WellDeclared entries)
    (carried : (plan entries map).foldlM
      (Numbering.carryOut (spaceOf category entries map)) {} = .ok numbering) :
    Executed category entries map (courseOf category entries map) ∧
      numbering.records = (courseOf category entries map).map Deed.record ∧
      numbering.events = (courseOf category entries map).filterMap Deed.event? := by
  have logged := logged_of_foldlM (Logged.start _) carried
  rw [List.nil_append] at logged
  exact ⟨⟨valid, map_move_deedsOf, logged.yields, logged.minted, logged.bumped⟩, logged.records,
    logged.events⟩

theorem exists_executed_of_foldlM {category : Category} {entries : List Entry} {map : IdMap}
    {numbering : Numbering} (valid : WellDeclared entries)
    (carried : (plan entries map).foldlM
      (Numbering.carryOut (spaceOf category entries map)) {} = .ok numbering) :
    ∃ deeds, Executed category entries map deeds ∧ numbering.records = deeds.map Deed.record ∧
      numbering.events = deeds.filterMap Deed.event? :=
  ⟨_, executed_courseOf valid carried⟩

theorem assigned_courseOf {category : Category} {entries : List Entry} {map : IdMap}
    {assignment : Assignment} (ended : (assign category entries map).outcome = .ok assignment) :
    Assigned category entries map (courseOf category entries map) assignment := by
  obtain ⟨valid, numbering, carried, distinct, rfl⟩ := outcome_assign_eq_ok_iff.mp ended
  obtain ⟨executed, recordsEq, eventsEq⟩ := executed_courseOf valid carried
  rw [recordsEq] at distinct
  exact ⟨executed, distinct, congrArg sortRecords recordsEq, eventsEq⟩

/-- Every successful assignment has its deeds. -/
theorem exists_deeds_of_assign {category : Category} {entries : List Entry} {map : IdMap}
    {assignment : Assignment} (ended : (assign category entries map).outcome = .ok assignment) :
    ∃ deeds, Assigned category entries map deeds assignment :=
  ⟨_, assigned_courseOf ended⟩

namespace Executed

variable {category : Category} {entries : List Entry} {map : IdMap} {deeds : List Deed}

theorem decided (executed : Executed category entries map deeds) {deed : Deed}
    (member : deed ∈ deeds) : Decided entries map deed.move := by
  apply decided_of_mem_plan
  rw [← executed.moves]
  exact List.mem_map_of_mem member

/-- The one place where the decisions of a run meet their records. -/
theorem justified (executed : Executed category entries map deeds) {deed : Deed}
    (member : deed ∈ deeds) : Justified entries map (spaceOf category entries map) deed :=
  (executed.decided member).justified (executed.yields deed member)

/-- Selecting deeds by their decisions selects what the plan holds. -/
theorem filterMap_move {β : Type} (executed : Executed category entries map deeds)
    (select : Move → Option β) :
    deeds.filterMap (fun deed => select deed.move) = (plan entries map).filterMap select := by
  rw [← executed.moves, List.filterMap_map]
  rfl

theorem shipped?_perm (executed : Executed category entries map deeds) :
    (deeds.filterMap fun deed => deed.move.shipped?).Perm map.entries := by
  rw [executed.filterMap_move]
  exact filterMap_shipped?_plan_perm executed.valid.names

theorem nodup_shipped? (executed : Executed category entries map deeds) :
    (deeds.filterMap fun deed => deed.move.shipped?).Nodup :=
  executed.shipped?_perm.nodup_iff.mpr map.nodup_entries

/-- Every shipped pair has a deed. -/
theorem exists_deed_of_shipped (executed : Executed category entries map deeds)
    {pair : String × Nat} (shipped : pair ∈ map.entries) :
    ∃ deed ∈ deeds, deed.move.shipped? = some pair :=
  List.mem_filterMap.mp (executed.shipped?_perm.mem_iff.mpr shipped)

/-- A shipped version whose number no other function declares is kept. -/
theorem exists_keep_of_unclaimed (executed : Executed category entries map deeds) {base : String}
    {prior : Prior} (version : prior ∈ map.versionsOf base)
    (nobody : claimant? entries prior.number base = none) :
    ∃ origin, ⟨.keep base prior origin, ⟨base, prior.number, prior.version, origin⟩⟩ ∈ deeds := by
  obtain ⟨deed, member, disposes⟩ :=
    executed.exists_deed_of_shipped (IdMap.mem_versionsOf_iff.mp version).1
  cases executed.justified member with
  | adopt | mint | reversion => contradiction
  | @keep _ _ origin otherVersion _ _ =>
      obtain ⟨rfl, rfl⟩ := IdMap.eq_of_pair_eq otherVersion version (Option.some.inj disposes)
      exact ⟨origin, member⟩
  | evict otherVersion claimed _ _ _ =>
      obtain ⟨rfl, rfl⟩ := IdMap.eq_of_pair_eq otherVersion version (Option.some.inj disposes)
      rw [claimed] at nobody
      contradiction

/-- A shipped version whose number another function declares is evicted for it. -/
theorem exists_evict_of_claimed (executed : Executed category entries map deeds) {base : String}
    {prior : Prior} (version : prior ∈ map.versionsOf base) {claimant : String}
    (claimed : claimant? entries prior.number base = some claimant) :
    ∃ origin fresh raised,
      ⟨.evict base prior claimant origin, ⟨base, fresh, some raised, origin⟩⟩ ∈ deeds ∧
        (spaceOf category entries map).Fresh fresh ∧
        (spaceOf category entries map).Raised base raised := by
  obtain ⟨deed, member, disposes⟩ :=
    executed.exists_deed_of_shipped (IdMap.mem_versionsOf_iff.mp version).1
  cases executed.justified member with
  | adopt | mint | reversion => contradiction
  | keep otherVersion unclaimed _ =>
      obtain ⟨rfl, rfl⟩ := IdMap.eq_of_pair_eq otherVersion version (Option.some.inj disposes)
      rw [unclaimed] at claimed
      contradiction
  | @evict _ _ _ origin _ _ otherVersion claimedBefore _ fresh raised =>
      obtain ⟨rfl, rfl⟩ := IdMap.eq_of_pair_eq otherVersion version (Option.some.inj disposes)
      rw [claimedBefore] at claimed
      cases claimed
      exact ⟨origin, _, _, member, fresh, raised⟩

theorem nodup_introduced? (executed : Executed category entries map deeds) :
    (deeds.filterMap fun deed => deed.move.introduced?).Nodup := by
  rw [executed.filterMap_move, filterMap_introduced?_plan]
  exact executed.valid.names.sublist (List.filter_sublist.map Entry.name)

theorem nodup_declared? (executed : Executed category entries map deeds) :
    (deeds.filterMap fun deed => deed.move.declared?).Nodup := by
  rw [executed.filterMap_move]
  exact executed.valid.numbers.sublist filterMap_declared?_plan_sublist

theorem nodup_current? (executed : Executed category entries map deeds) :
    (deeds.filterMap fun deed => deed.move.current?).Nodup := by
  rw [executed.filterMap_move, filterMap_current?_plan]
  exact executed.valid.names

theorem number_pos (executed : Executed category entries map deeds) {deed : Deed}
    (member : deed ∈ deeds) : 0 < deed.record.number := by
  have positive : ∀ {name : String} {number : Nat}, ⟨name, some number⟩ ∈ entries → 0 < number := by
    intro name number declares
    apply Nat.pos_of_ne_zero
    rintro rfl
    exact executed.valid.nonzero _ declares rfl
  cases executed.justified member with
  | adopt declares _ => exact positive declares
  | mint _ _ fresh => exact fresh.positive
  | keep shipped _ _ => exact map.positive _ (IdMap.mem_versionsOf_iff.mp shipped).1
  | evict _ _ _ fresh _ => exact fresh.positive
  | reversion declares _ _ _ => exact positive declares

theorem current?_eq_some_iff (executed : Executed category entries map deeds) {deed : Deed}
    (member : deed ∈ deeds) {function : String} :
    deed.move.current? = some function ↔
      deed.record.function = function ∧ deed.record.origin = .current := by
  rw [(executed.yields deed member).current?]
  by_cases current : deed.record.origin = .current <;> simp [current]

/-- Every function of the header has a current record. -/
theorem exists_current (executed : Executed category entries map deeds) {entry : Entry}
    (member : entry ∈ entries) : ∃ deed ∈ deeds, deed.move.current? = some entry.name := by
  apply List.mem_filterMap.mp
  rw [executed.filterMap_move, filterMap_current?_plan]
  exact List.mem_map_of_mem member

/-- The current record of a function that declares a number has this number. -/
theorem number_eq_of_declares (executed : Executed category entries map deeds) {function : String}
    {number : Nat} (declares : ⟨function, some number⟩ ∈ entries) {deed : Deed}
    (member : deed ∈ deeds) (current : deed.move.current? = some function) :
    deed.record.number = number := by
  have agrees : ∀ {declared : Option Nat}, ⟨function, declared⟩ ∈ entries →
      declared = some number :=
    fun other => congrArg Entry.declared (executed.valid.eq_of_name_eq other declares rfl)
  have continued : ∀ {prior : Prior}, Continues entries map function prior →
      prior.number = number := by
    rintro prior ⟨declared, entryMem, _, unchanged⟩
    rw [agrees entryMem] at unchanged
    rcases unchanged with undeclared | unchanged
    · contradiction
    · exact (Option.some.inj unchanged).symm
  cases executed.justified member with
  | adopt otherDeclares _ =>
      cases current
      exact Option.some.inj (agrees otherDeclares)
  | mint undeclared _ _ =>
      cases current
      have declared := agrees undeclared
      contradiction
  | @keep _ _ origin _ _ continues =>
      cases origin with
      | residual => contradiction
      | current =>
          cases current
          exact continued (continues rfl)
  | @evict _ _ _ origin _ _ _ claimed continues _ _ =>
      cases origin with
      | residual => contradiction
      | current =>
          cases current
          -- The claimant would be another function that declares the number.
          obtain ⟨claims, different⟩ := executed.valid.claimant?_eq_some_iff.mp claimed
          rw [continued (continues rfl)] at claims
          have same :=
            Selection.eq_of_nodup_filterMap executed.valid.numbers claims declares rfl rfl
          exact absurd (congrArg Entry.name same) different
  | reversion otherDeclares _ _ _ =>
      cases current
      exact Option.some.inj (agrees otherDeclares)

end Executed

namespace Assigned

variable {category : Category} {entries : List Entry} {map : IdMap} {deeds : List Deed}
  {assignment : Assignment}

theorem nodup_deeds (assigned : Assigned category entries map deeds assignment) : deeds.Nodup :=
  .of_map Deed.record (assigned.distinct.imp Record.Distinct.ne)

theorem records_perm (assigned : Assigned category entries map deeds assignment) :
    assignment.records.Perm (deeds.map Deed.record) := by
  rw [assigned.records_eq]
  exact sortRecords_perm _

theorem records_sorted (assigned : Assigned category entries map deeds assignment) :
    assignment.records.Pairwise fun left right => left.number ≤ right.number := by
  rw [assigned.records_eq]
  exact sortRecords_pairwise _

theorem mem_records_iff (assigned : Assigned category entries map deeds assignment)
    {record : Record} : record ∈ assignment.records ↔ ∃ deed ∈ deeds, deed.record = record := by
  rw [assigned.records_perm.mem_iff, List.mem_map]

theorem record_mem (assigned : Assigned category entries map deeds assignment) {deed : Deed}
    (member : deed ∈ deeds) : deed.record ∈ assignment.records :=
  assigned.mem_records_iff.mpr ⟨deed, member, rfl⟩

theorem records_pairwise (assigned : Assigned category entries map deeds assignment) :
    assignment.records.Pairwise Record.Distinct :=
  (assigned.records_perm.pairwise_iff Record.Distinct.symm).mpr assigned.distinct

theorem event_mem (assigned : Assigned category entries map deeds assignment) {deed : Deed}
    (member : deed ∈ deeds) {event : Event} (reports : deed.event? = some event) :
    event ∈ assignment.events := by
  rw [assigned.events_eq]
  exact List.mem_filterMap.mpr ⟨deed, member, reports⟩

theorem exists_deed_of_event (assigned : Assigned category entries map deeds assignment)
    {event : Event} (reported : event ∈ assignment.events) :
    ∃ deed ∈ deeds, deed.event? = some event := by
  rw [assigned.events_eq] at reported
  exact List.mem_filterMap.mp reported

/-- A recycled pair is reported by the deed that evicts it. -/
theorem exists_evict_of_recycled (assigned : Assigned category entries map deeds assignment)
    {evicted claimant reassigned : String} {number reassignedNumber : Nat}
    (reported : .recycled evicted number claimant reassigned reassignedNumber ∈
      assignment.events) :
    ∃ base prior origin record, ⟨.evict base prior claimant origin, record⟩ ∈ deeds ∧
      evicted = prior.name ∧ number = prior.number ∧
      reassigned = record.name ∧ reassignedNumber = record.number := by
  obtain ⟨⟨move, record⟩, member, reports⟩ := assigned.exists_deed_of_event reported
  cases move with
  | adopt | mint | keep | reversion => cases reports
  | evict base prior claimant origin =>
      cases reports
      exact ⟨base, prior, origin, record, member, rfl, rfl, rfl, rfl⟩

/-- A reversioned function is reported by the deed that moves it to the number it declares. -/
theorem exists_reversion_of_reversioned
    (assigned : Assigned category entries map deeds assignment)
    {function retained minted : String} {retainedNumber mintedNumber : Nat}
    (reported : .reversioned function retained retainedNumber minted mintedNumber ∈
      assignment.events) :
    ∃ prior declared record, ⟨.reversion function prior declared, record⟩ ∈ deeds ∧
      retained = prior.name ∧ retainedNumber = prior.number ∧
      minted = record.name ∧ mintedNumber = record.number := by
  obtain ⟨⟨move, record⟩, member, reports⟩ := assigned.exists_deed_of_event reported
  cases move with
  | adopt | mint | keep | evict => cases reports
  | reversion function prior declared =>
      cases reports
      exact ⟨prior, declared, record, member, rfl, rfl, rfl, rfl⟩

/-- A function of the header has one current record. -/
theorem filter_current (assigned : Assigned category entries map deeds assignment)
    {function : String} {deed : Deed} (member : deed ∈ deeds)
    (current : deed.move.current? = some function) :
    (assignment.records.filter fun record =>
      record.function = function ∧ record.origin = .current) = [deed.record] := by
  have nodup : assignment.records.Nodup := assigned.records_pairwise.imp Record.Distinct.ne
  apply Selection.filter_eq_singleton nodup (assigned.record_mem member)
  · simpa using (assigned.current?_eq_some_iff member).mp current
  · intro record recordMem same
    obtain ⟨other, otherMem, rfl⟩ := assigned.mem_records_iff.mp recordMem
    have otherCurrent := (assigned.current?_eq_some_iff otherMem).mpr (of_decide_eq_true same)
    exact congrArg Deed.record
      (Selection.eq_of_nodup_filterMap assigned.nodup_current? otherMem member otherCurrent current)

end Assigned

end ApiTrace
