import ApiTrace.Generated.LookupTable
import ApiTrace.Proofs.Identity.IdFile
import ApiTrace.Proofs.Identity.Stability

/-!
# Shipped numbers taken as they are

A run that does not number takes its records from the shipped pairs, each name read as a base and a
version. After a run that numbered these are the records of that run, so both runs write the same
tables. Of a header that was written otherwise they are the shipped pairs exactly if every name in
it is the text of its reading; a tag with a leading zero is not.
-/

namespace ApiTrace

/-! ## Records of shipped pairs -/

/-- The record that a shipped pair is taken for. -/
def recordOfPair (pair : String × Nat) : Record :=
  ⟨(VersionedName.ofName pair.1).base, pair.2, (VersionedName.ofName pair.1).version, .current⟩

theorem name_recordOfPair (pair : String × Nat) :
    (recordOfPair pair).name = (VersionedName.ofName pair.1).name :=
  rfl

namespace Assignment

variable {category : Category} {map : IdMap}

theorem records_ofMap_perm :
    (ofMap category map).records.Perm (map.entries.map recordOfPair) :=
  sortRecords_perm _

theorem mem_records_ofMap_iff {record : Record} :
    record ∈ (ofMap category map).records ↔ ∃ pair ∈ map.entries, recordOfPair pair = record := by
  rw [records_ofMap_perm.mem_iff, List.mem_map]

/-- The pairs of the records are the shipped ones, each name written as it was read. -/
theorem pairs_ofMap_perm :
    (ofMap category map).pairs.Perm
      (map.entries.map fun pair => ((VersionedName.ofName pair.1).name, pair.2)) := by
  have perm :
      ((ofMap category map).records.map fun record => (record.name, record.number)).Perm _ :=
    records_ofMap_perm.map _
  rw [List.map_map] at perm
  exact perm

theorem records_ofMap_ascending :
    (ofMap category map).records.Pairwise fun left right => left.number < right.number := by
  have different : (ofMap category map).records.Pairwise fun left right =>
      left.number ≠ right.number :=
    (records_ofMap_perm.pairwise_iff Ne.symm).mpr (List.pairwise_map.mpr map.distinct)
  apply ((sortRecords_pairwise _).and different).imp
  rintro left right ⟨atMost, apart⟩
  exact Nat.lt_of_le_of_ne atMost apart

end Assignment

/-! ## After a run that numbered -/

/-- A record as one of a function of the header. -/
def Record.asCurrent (record : Record) : Record :=
  { record with origin := .current }

@[simp]
theorem Record.function_asCurrent (record : Record) : record.asCurrent.function = record.function :=
  rfl

@[simp]
theorem Record.enumerator_asCurrent (record : Record) :
    record.asCurrent.enumerator = record.enumerator :=
  rfl

/-- The same numbers without what is known of their origin. -/
def Assignment.withoutOrigins (assignment : Assignment) : Assignment :=
  ⟨assignment.category, assignment.records.map Record.asCurrent, []⟩

/-- The table of names does not tell origins. -/
theorem renderNameTable_withoutOrigins (assignment : Assignment) (naming : Naming) :
    renderNameTable assignment.withoutOrigins naming = renderNameTable assignment naming := by
  unfold renderNameTable
  simp only [Assignment.withoutOrigins, List.map_map, Function.comp_def,
    Record.function_asCurrent, Record.enumerator_asCurrent]

/-- The table of states does not tell origins. -/
theorem renderStateTable_withoutOrigins (assignment : Assignment) (naming : Naming) :
    renderStateTable assignment.withoutOrigins naming = renderStateTable assignment naming := by
  unfold renderStateTable
  simp only [Assignment.withoutOrigins, List.map_map, Function.comp_def,
    Record.enumerator_asCurrent]

/-- Taking up what an assignment shipped gives it again without origins. -/
theorem Regenerated.ofMap_eq {category : Category} {entries : List Entry} {map shipped : IdMap}
    {deeds : List Deed} {assignment : Assignment}
    (regenerated : Regenerated category entries map deeds assignment shipped) :
    Assignment.ofMap assignment.category shipped = assignment.withoutOrigins := by
  have taken : assignment.pairs.map recordOfPair = assignment.records.map Record.asCurrent := by
    rw [Assignment.pairs, List.map_map]
    apply List.map_congr_left
    intro record recordMem
    obtain ⟨deed, deedMem, rfl⟩ := regenerated.mem_records_iff.mp recordMem
    rw [Function.comp_apply, recordOfPair, regenerated.ofName_record deedMem]
    rfl
  have perm : (Assignment.ofMap assignment.category shipped).records.Perm
      (assignment.pairs.map recordOfPair) :=
    Assignment.records_ofMap_perm.trans
      ((Assignment.perm_pairs_of_toMap regenerated.read).map recordOfPair)
  have ascending : (assignment.pairs.map recordOfPair).Pairwise fun left right =>
      left.number < right.number :=
    List.pairwise_map.mpr regenerated.pairs_ascending
  have recordsEq := perm.eq_of_pairwise
    (fun _ _ _ _ before after => absurd before (Nat.not_lt_of_lt after))
    Assignment.records_ofMap_ascending ascending
  rw [taken] at recordsEq
  rw [Assignment.withoutOrigins, ← recordsEq]
  rfl

/-- Taking up what an assignment shipped gives the same functions, versions and numbers in the same
order, and the same tables. -/
theorem ofMap_agrees (category : Category) (entries : List Entry) (map : IdMap)
    (named : map.Named) (untagged : ∀ entry ∈ entries, entry.Untagged) (assignment : Assignment)
    (ended : (assign category entries map).outcome = .ok assignment) :
    ∃ shipped, assignment.toMap = .ok shipped ∧
      (Assignment.ofMap category shipped).records.map
          (fun record => (record.function, record.version, record.number)) =
        assignment.records.map (fun record => (record.function, record.version, record.number)) ∧
      ∀ naming, renderNameTable (Assignment.ofMap category shipped) naming =
          renderNameTable assignment naming ∧
        renderStateTable (Assignment.ofMap category shipped) naming =
          renderStateTable assignment naming := by
  obtain ⟨deeds, assigned⟩ := exists_deeds_of_assign ended
  obtain ⟨shipped, read⟩ := assigned.exists_toMap
  have regenerated : Regenerated category entries map deeds assignment shipped :=
    ⟨assigned, named, untagged, read⟩
  have ofMapEq := regenerated.ofMap_eq
  rw [category_of_assign ended] at ofMapEq
  refine ⟨shipped, read, ?_, fun naming => ⟨?_, ?_⟩⟩
  · rw [ofMapEq, Assignment.withoutOrigins, List.map_map]
    rfl
  · rw [ofMapEq, renderNameTable_withoutOrigins]
  · rw [ofMapEq, renderStateTable_withoutOrigins]

theorem ofMap_agrees_contested :
    Contested.map.Named ∧ (∀ entry ∈ Contested.entries, entry.Untagged) ∧
      (assign Contested.category Contested.entries Contested.map).outcome =
        .ok Contested.assignment ∧
      ∃ shipped, Contested.assignment.toMap = .ok shipped ∧
        (Assignment.ofMap Contested.category shipped).records.map
            (fun record => (record.function, record.version, record.number)) =
          Contested.assignment.records.map
            (fun record => (record.function, record.version, record.number)) ∧
        ∀ naming, renderNameTable (Assignment.ofMap Contested.category shipped) naming =
            renderNameTable Contested.assignment naming ∧
          renderStateTable (Assignment.ofMap Contested.category shipped) naming =
            renderStateTable Contested.assignment naming :=
  ⟨Contested.named, Contested.untagged, Contested.ended,
    ofMap_agrees Contested.category Contested.entries Contested.map Contested.named
      Contested.untagged Contested.assignment Contested.ended⟩

/-! ## After any header -/

namespace IdMap

variable {map : IdMap}

/-- Writing the names as they were read changes no pair of a canonical map. -/
theorem Canonical.map_entries (canonical : map.Canonical) :
    map.entries.map (fun pair => ((VersionedName.ofName pair.1).name, pair.2)) = map.entries := by
  rw [List.map_congr_left fun pair member => by rw [canonical pair member], List.map_id']

/-- Names that read apart are written apart. -/
theorem ReadsApart.pairwise (readsApart : map.ReadsApart) :
    (map.entries.map fun pair => ((VersionedName.ofName pair.1).name, pair.2)).Pairwise
      fun left right => left.1 ≠ right.1 ∧ left.2 ≠ right.2 := by
  apply List.pairwise_map.mpr
  apply (map.nodup_entries.and map.distinct).imp_of_mem
  rintro first second firstMem secondMem ⟨different, numbers⟩
  refine ⟨fun sameName => different ?_, numbers⟩
  apply readsApart first firstMem second secondMem
  exact VersionedName.eq_of_name_eq (VersionedName.proper_ofName first.1)
    (VersionedName.proper_ofName second.1) sameName

end IdMap

namespace Assignment

variable {category : Category} {map : IdMap}

theorem exists_toMap_ofMap_iff :
    (∃ after, (ofMap category map).toMap = .ok after) ↔ map.ReadsApart := by
  constructor
  · rintro ⟨after, taken⟩ first firstMem second secondMem sameReading
    have names : (map.entries.map fun pair => (VersionedName.ofName pair.1).name).Nodup := by
      have perm := ((perm_pairs_of_toMap taken).trans pairs_ofMap_perm).map Prod.fst
      rw [List.map_map] at perm
      exact perm.nodup_iff.mp after.nodup_names
    exact List.inj_on_of_nodup_map names firstMem secondMem
      (congrArg VersionedName.name sameReading)
  · intro readsApart
    apply IdMap.exists_ofPairs
    · intro pair member
      obtain ⟨shipped, shippedMem, rfl⟩ := List.mem_map.mp (pairs_ofMap_perm.mem_iff.mp member)
      exact map.positive shipped shippedMem
    · exact (pairs_ofMap_perm.pairwise_iff fun different =>
        ⟨different.1.symm, different.2.symm⟩).mpr readsApart.pairwise

/-- The records stand for shipped pairs exactly if every name is the text of its reading. -/
theorem find?_name_eq_iff :
    (∀ record ∈ (ofMap category map).records, map.find? record.name = some record.number) ↔
      map.Canonical := by
  constructor
  · intro defined pair member
    have found := defined _ (mem_records_ofMap_iff.mpr ⟨pair, member, rfl⟩)
    have same := IdMap.eq_of_number_eq (IdMap.find?_eq_some_iff.mp found) member rfl
    exact congrArg Prod.fst same
  · intro canonical record member
    obtain ⟨pair, pairMem, rfl⟩ := mem_records_ofMap_iff.mp member
    rw [name_recordOfPair, canonical pair pairMem]
    exact IdMap.find?_eq_some_iff.mpr pairMem

end Assignment

/-- The numbers of a header that can be read are taken as they are exactly if every name is the text
of its reading. They can be taken at all exactly if no two names read as the same version. -/
theorem ofMap_verbatim_iff (file text : String) (map : IdMap)
    (read : IdMap.parse file text = .ok map)
    (category : Category) :
    ((∃ after, (Assignment.ofMap category map).toMap = .ok after) ↔ map.ReadsApart) ∧
      ((Assignment.ofMap category map).toMap = .ok map ↔ map.Canonical) ∧
      ((∀ record ∈ (Assignment.ofMap category map).records,
        map.find? record.name = some record.number) ↔ map.Canonical) := by
  refine ⟨Assignment.exists_toMap_ofMap_iff, ?_, Assignment.find?_name_eq_iff⟩
  constructor
  · intro taken pair member
    have perm := (Assignment.perm_pairs_of_toMap taken).trans Assignment.pairs_ofMap_perm
    obtain ⟨shipped, _, rfl⟩ := List.mem_map.mp (perm.mem_iff.mp member)
    exact congrArg VersionedName.name (VersionedName.proper_ofName shipped.1)
  · intro canonical
    apply IdMap.ofPairs_of_parse read
    have perm : (Assignment.ofMap category map).pairs.Perm _ := Assignment.pairs_ofMap_perm
    rwa [canonical.map_entries] at perm

namespace Contested

/-- A header that ships the contested map. -/
def header : String :=
  "typedef enum _pti_api_id_driver_levelzero \x7b\n    reserved_driver_levelzero_id=0,\n" ++
    "    zeInit_id=5,\n    zeInit_v2_id=6,\n \x7d pti_api_id_driver_levelzero;\n"

theorem parse_header : IdMap.parse "ids.h" header = .ok map := by
  decide +kernel

end Contested

theorem ofMap_verbatim_contested :
    IdMap.parse "ids.h" Contested.header = .ok Contested.map ∧
      (Assignment.ofMap Contested.category Contested.map).toMap = .ok Contested.map := by
  have verbatim := ofMap_verbatim_iff "ids.h" Contested.header Contested.map Contested.parse_header
    Contested.category
  exact ⟨Contested.parse_header, verbatim.2.1.mpr Contested.canonical⟩

namespace Padded

/-- A header with a name whose tag has a leading zero. -/
def header : String :=
  "    reserved_driver_levelzero_id=0,\n    zeInit_v02_id=5,\n \x7d pti_api_id_driver_levelzero;\n"

/-- The pair of the header. -/
def map : IdMap where
  numbers := ⟨[("zeInit_v02", 5)], by decide⟩
  distinct := by decide
  positive := by decide
  nextFree := 6

/-- The pair that is taken for it. -/
def taken : IdMap where
  numbers := ⟨[("zeInit_v2", 5)], by decide⟩
  distinct := by decide
  positive := by decide
  nextFree := 6

end Padded

/-- A shipped name may be taken for another one. -/
theorem ofMap_renames_padded :
    IdMap.parse "ids.h" Padded.header = .ok Padded.map ∧
      (Assignment.ofMap Contested.category Padded.map).toMap = .ok Padded.taken ∧
      Padded.taken ≠ Padded.map :=
  ⟨by decide +kernel, by decide +kernel, by decide +kernel⟩

end ApiTrace
