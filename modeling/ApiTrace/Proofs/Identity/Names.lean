import ApiTrace.Proofs.Identity.Assignment
import ApiTrace.Proofs.Identity.Version
import Mathlib

/-!
# Reading an assignment back

The name of every record reads as its function and version, as long as the entries are untagged and
no shipped name is empty. What an assignment ships can always be read back, and the next run then
starts from exactly its pairs.
-/

namespace ApiTrace

/-! ## Names of entries, of shipped pairs and of records -/

/-- A function whose name reads as itself. -/
def Entry.Untagged (entry : Entry) : Prop :=
  entry.name ≠ "" ∧ VersionedName.ofName entry.name = ⟨entry.name, none⟩

instance (entry : Entry) : Decidable entry.Untagged :=
  inferInstanceAs
    (Decidable (entry.name ≠ "" ∧ VersionedName.ofName entry.name = ⟨entry.name, none⟩))

namespace IdMap

/-- The shipped names are nonempty. -/
def Named (map : IdMap) : Prop :=
  ∀ entry ∈ map.entries, entry.1 ≠ ""

instance (map : IdMap) : Decidable map.Named :=
  inferInstanceAs (Decidable (∀ entry ∈ map.entries, entry.1 ≠ ""))

/-- The shipped names are what writing gives for their bases and versions. -/
def Canonical (map : IdMap) : Prop :=
  ∀ entry ∈ map.entries, (VersionedName.ofName entry.1).name = entry.1

instance (map : IdMap) : Decidable map.Canonical :=
  inferInstanceAs (Decidable (∀ entry ∈ map.entries, (VersionedName.ofName entry.1).name = entry.1))

/-- No two shipped names read as the same version of the same function. -/
def ReadsApart (map : IdMap) : Prop :=
  ∀ first ∈ map.entries, ∀ second ∈ map.entries,
    VersionedName.ofName first.1 = VersionedName.ofName second.1 → first = second

theorem Canonical.readsApart {map : IdMap} (canonical : map.Canonical) : map.ReadsApart := by
  intro first firstMem second secondMem same
  have nameEq : first.1 = second.1 := by
    rw [← canonical first firstMem, same, canonical second secondMem]
  exact IdMap.eq_of_name_eq firstMem secondMem nameEq

end IdMap

/-- The base and version of a record. -/
def Record.versioned (record : Record) : VersionedName :=
  ⟨record.function, record.version⟩

section Executed

variable {category : Category} {entries : List Entry} {map : IdMap} {deeds : List Deed}

theorem Executed.function_ne_empty (executed : Executed category entries map deeds)
    (named : map.Named) (untagged : ∀ entry ∈ entries, entry.Untagged) {deed : Deed}
    (member : deed ∈ deeds) : deed.record.function ≠ "" := by
  have ofVersion : ∀ {base : String} {prior : Prior}, prior ∈ map.versionsOf base → base ≠ "" := by
    intro base prior version
    obtain ⟨shipped, read⟩ := IdMap.mem_versionsOf_iff.mp version
    have nonempty := VersionedName.base_ofName_ne_empty (named _ shipped)
    rwa [read] at nonempty
  cases executed.justified member with
  | adopt declares _ => exact (untagged _ declares).1
  | mint undeclared _ _ => exact (untagged _ undeclared).1
  | keep shipped _ _ => exact ofVersion shipped
  | evict shipped _ _ _ _ => exact ofVersion shipped
  | reversion declares _ _ _ => exact (untagged _ declares).1

/-- The name of a record with a nonempty function reads as its function and version. -/
theorem Executed.proper_of_ne_empty (executed : Executed category entries map deeds)
    (untagged : ∀ entry ∈ entries, entry.Untagged) {deed : Deed} (member : deed ∈ deeds)
    (nonempty : deed.record.function ≠ "") : deed.record.versioned.Proper := by
  have tagged : ∀ {base : String} {version : Nat}, base ≠ "" →
      (spaceOf category entries map).Raised base version →
        VersionedName.Proper ⟨base, some version⟩ := by
    intro base version nonempty raised
    have above : map.highestVersion base < version := raised.highest_lt
    have least := map.one_le_highestVersion base
    exact VersionedName.proper_tagged nonempty (by omega) raised.le_maxWord
  cases executed.justified member with
  | adopt declares _ => exact (untagged _ declares).2
  | mint undeclared _ _ => exact (untagged _ undeclared).2
  | @keep _ prior _ shipped _ _ =>
      have read := (IdMap.mem_versionsOf_iff.mp shipped).2
      rw [Record.versioned, ← read]
      exact VersionedName.proper_ofName prior.name
  | evict _ _ _ _ raised => exact tagged nonempty raised
  | reversion _ _ _ raised => exact tagged nonempty raised

/-- The name of every record reads as its function and version. -/
theorem Executed.proper (executed : Executed category entries map deeds) (named : map.Named)
    (untagged : ∀ entry ∈ entries, entry.Untagged) {deed : Deed} (member : deed ∈ deeds) :
    deed.record.versioned.Proper :=
  executed.proper_of_ne_empty untagged member (executed.function_ne_empty named untagged member)

/-- The name of every record is what writing gives for its base and version, also where the shipped
names are not. -/
theorem Executed.name_ofName_name (executed : Executed category entries map deeds)
    (untagged : ∀ entry ∈ entries, entry.Untagged) {deed : Deed} (member : deed ∈ deeds) :
    (VersionedName.ofName deed.record.name).name = deed.record.name := by
  by_cases empty : deed.record.function = ""
  · rw [Record.name, empty, VersionedName.ofName_name_of_base_empty]
    rfl
  · exact congrArg VersionedName.name (executed.proper_of_ne_empty untagged member empty)

end Executed

/-! ## The next map -/

namespace Assignment

/-- The names with their numbers, by ascending number. -/
def pairs (assignment : Assignment) : List (String × Nat) :=
  assignment.records.map fun record => (record.name, record.number)

/-- The pairs by which a function of the header is known; an assignment has one for each. -/
def bindings (assignment : Assignment) (function : String) : List (String × Nat) :=
  (assignment.records.filter fun record =>
    record.function = function ∧ record.origin = .current).map fun record =>
      (record.name, record.number)

theorem perm_pairs_of_toMap {assignment : Assignment} {after : IdMap}
    (read : assignment.toMap = .ok after) : after.entries.Perm assignment.pairs :=
  IdMap.perm_of_ofPairs read

/-- Records that may stand together, none with the number zero, can be read back. -/
theorem exists_toMap {assignment : Assignment} (apart : assignment.records.Pairwise Record.Distinct)
    (positive : ∀ record ∈ assignment.records, 0 < record.number) :
    ∃ after, assignment.toMap = .ok after := by
  apply IdMap.exists_ofPairs
  · intro pair member
    obtain ⟨record, recordMem, rfl⟩ := List.mem_map.mp member
    exact positive record recordMem
  · apply List.pairwise_map.mpr
    apply apart.imp
    rintro left right ⟨numbers, names⟩
    exact ⟨names, numbers⟩

end Assignment

theorem Assigned.pair_mem_pairs {category : Category} {entries : List Entry} {map : IdMap}
    {deeds : List Deed} {assignment : Assignment}
    (assigned : Assigned category entries map deeds assignment) {deed : Deed}
    (member : deed ∈ deeds) : (deed.record.name, deed.record.number) ∈ assignment.pairs :=
  List.mem_map_of_mem (assigned.record_mem member)

theorem Assigned.bindings_eq {category : Category} {entries : List Entry} {map : IdMap}
    {deeds : List Deed} {assignment : Assignment}
    (assigned : Assigned category entries map deeds assignment) {function : String} {deed : Deed}
    (member : deed ∈ deeds) (current : deed.move.current? = some function) :
    assignment.bindings function = [(deed.record.name, deed.record.number)] := by
  rw [Assignment.bindings, assigned.filter_current member current, List.map_singleton]

/-- What an assignment ships can always be read back. -/
theorem Assigned.exists_toMap {category : Category} {entries : List Entry} {map : IdMap}
    {deeds : List Deed} {assignment : Assignment}
    (assigned : Assigned category entries map deeds assignment) :
    ∃ after, assignment.toMap = .ok after := by
  apply Assignment.exists_toMap assigned.records_pairwise
  intro record recordMem
  obtain ⟨deed, deedMem, rfl⟩ := assigned.mem_records_iff.mp recordMem
  exact assigned.number_pos deedMem

/-- The pairs that are read back are those of the records. -/
theorem Assigned.mem_shipped_iff {category : Category} {entries : List Entry} {map : IdMap}
    {deeds : List Deed} {assignment : Assignment}
    (assigned : Assigned category entries map deeds assignment) {shipped : IdMap}
    (read : assignment.toMap = .ok shipped) {pair : String × Nat} :
    pair ∈ shipped.entries ↔ ∃ deed ∈ deeds, (deed.record.name, deed.record.number) = pair := by
  rw [(Assignment.perm_pairs_of_toMap read).mem_iff, Assignment.pairs, List.mem_map]
  constructor
  · rintro ⟨record, recordMem, pairEq⟩
    obtain ⟨deed, deedMem, rfl⟩ := assigned.mem_records_iff.mp recordMem
    exact ⟨deed, deedMem, pairEq⟩
  · rintro ⟨deed, deedMem, pairEq⟩
    exact ⟨deed.record, assigned.record_mem deedMem, pairEq⟩

/-- An assignment for untagged functions that was read back. -/
structure ReadBack (category : Category) (entries : List Entry) (map : IdMap) (deeds : List Deed)
    (assignment : Assignment) (shipped : IdMap) : Prop
    extends Assigned category entries map deeds assignment where
  untagged : ∀ entry ∈ entries, entry.Untagged
  read : assignment.toMap = .ok shipped

namespace ReadBack

variable {category : Category} {entries : List Entry} {map : IdMap} {deeds : List Deed}
  {assignment : Assignment} {shipped : IdMap}

theorem mem_shipped_iff (readBack : ReadBack category entries map deeds assignment shipped)
    {pair : String × Nat} :
    pair ∈ shipped.entries ↔ ∃ deed ∈ deeds, (deed.record.name, deed.record.number) = pair :=
  readBack.toAssigned.mem_shipped_iff readBack.read

/-- A record of a nonempty function is read back as a version of it. -/
theorem version_mem_of_ne_empty
    (readBack : ReadBack category entries map deeds assignment shipped) {deed : Deed}
    (member : deed ∈ deeds) (nonempty : deed.record.function ≠ "") :
    ⟨deed.record.name, deed.record.number, deed.record.version⟩ ∈
      shipped.versionsOf deed.record.function :=
  IdMap.mem_versionsOf_iff.mpr
    ⟨readBack.mem_shipped_iff.mpr ⟨deed, member, rfl⟩,
      readBack.proper_of_ne_empty readBack.untagged member nonempty⟩

/-- The current record of a function is read back as one of its versions. -/
theorem current_version_mem (readBack : ReadBack category entries map deeds assignment shipped)
    {entry : Entry} (entryMem : entry ∈ entries) {deed : Deed} (member : deed ∈ deeds)
    (current : deed.move.current? = some entry.name) :
    ⟨deed.record.name, deed.record.number, deed.record.version⟩ ∈
      shipped.versionsOf entry.name := by
  have functionEq := ((readBack.current?_eq_some_iff member).mp current).1
  have nonempty : deed.record.function ≠ "" := by
    rw [functionEq]
    exact (readBack.untagged entry entryMem).1
  have version := readBack.version_mem_of_ne_empty member nonempty
  rwa [functionEq] at version

/-- What is read back is canonical, whatever was shipped before. -/
theorem canonical_shipped (readBack : ReadBack category entries map deeds assignment shipped) :
    shipped.Canonical := by
  intro pair member
  obtain ⟨deed, deedMem, rfl⟩ := readBack.mem_shipped_iff.mp member
  exact readBack.name_ofName_name readBack.untagged deedMem

end ReadBack

/-- One regeneration: an assignment after nonempty names that was read back. -/
structure Regenerated (category : Category) (entries : List Entry) (map : IdMap) (deeds : List Deed)
    (assignment : Assignment) (shipped : IdMap) : Prop
    extends Assigned category entries map deeds assignment where
  named : map.Named
  untagged : ∀ entry ∈ entries, entry.Untagged
  read : assignment.toMap = .ok shipped

namespace Regenerated

variable {category : Category} {entries : List Entry} {map : IdMap} {deeds : List Deed}
  {assignment : Assignment} {shipped : IdMap}

theorem readBack (regenerated : Regenerated category entries map deeds assignment shipped) :
    ReadBack category entries map deeds assignment shipped :=
  ⟨regenerated.toAssigned, regenerated.untagged, regenerated.read⟩

theorem mem_shipped_iff
    (regenerated : Regenerated category entries map deeds assignment shipped)
    {pair : String × Nat} :
    pair ∈ shipped.entries ↔ ∃ deed ∈ deeds, (deed.record.name, deed.record.number) = pair :=
  regenerated.readBack.mem_shipped_iff

theorem pair_mem_shipped
    (regenerated : Regenerated category entries map deeds assignment shipped) {deed : Deed}
    (member : deed ∈ deeds) : (deed.record.name, deed.record.number) ∈ shipped.entries :=
  regenerated.mem_shipped_iff.mpr ⟨deed, member, rfl⟩

theorem ofName_record
    (regenerated : Regenerated category entries map deeds assignment shipped) {deed : Deed}
    (member : deed ∈ deeds) : VersionedName.ofName deed.record.name = deed.record.versioned :=
  regenerated.proper regenerated.named regenerated.untagged member

/-- Every record is read back as a version of its function. -/
theorem version_mem_shipped
    (regenerated : Regenerated category entries map deeds assignment shipped) {deed : Deed}
    (member : deed ∈ deeds) :
    ⟨deed.record.name, deed.record.number, deed.record.version⟩ ∈
      shipped.versionsOf deed.record.function :=
  IdMap.mem_versionsOf_iff.mpr
    ⟨regenerated.pair_mem_shipped member, regenerated.ofName_record member⟩

theorem canonical_shipped
    (regenerated : Regenerated category entries map deeds assignment shipped) :
    shipped.Canonical :=
  regenerated.readBack.canonical_shipped

theorem named_shipped
    (regenerated : Regenerated category entries map deeds assignment shipped) :
    shipped.Named := by
  intro pair member
  obtain ⟨deed, deedMem, rfl⟩ := regenerated.mem_shipped_iff.mp member
  have nonempty : deed.record.versioned.base ≠ "" :=
    regenerated.function_ne_empty regenerated.named regenerated.untagged deedMem
  exact VersionedName.name_ne_empty nonempty

end Regenerated

/-!
## A contested map

A small input on which every kind of decision is taken.
-/

namespace Contested

/-- The category that is numbered. -/
def category : Category := ⟨"driver", "levelzero"⟩

/-- One function, shipped under two versions. -/
def map : IdMap where
  numbers := ⟨[("zeInit", 5), ("zeInit_v2", 6)], by decide⟩
  distinct := by decide
  positive := by decide
  nextFree := 7

/-- The shipped function moves to another number, and a new one claims the number that it leaves. -/
def entries : List Entry :=
  [⟨"zeInit", some 9⟩, ⟨"zeOpen", some 6⟩, ⟨"zeNew", none⟩]

/-- What the numbering gives. -/
def assignment : Assignment where
  category := category
  records := [
    ⟨"zeInit", 5, none, .residual⟩,
    ⟨"zeOpen", 6, none, .current⟩,
    ⟨"zeInit", 7, some 3, .residual⟩,
    ⟨"zeNew", 8, none, .current⟩,
    ⟨"zeInit", 9, some 4, .current⟩]
  events := [
    .recycled "zeInit_v2" 6 "zeOpen" "zeInit_v3" 7,
    .reversioned "zeInit" "zeInit_v2" 6 "zeInit_v4" 9]

theorem ended : (assign category entries map).outcome = .ok assignment := by
  cbv

theorem named : map.Named := by
  decide +kernel

theorem canonical : map.Canonical := by
  decide +kernel

theorem untagged : ∀ entry ∈ entries, entry.Untagged := by
  decide +kernel

end Contested

end ApiTrace
