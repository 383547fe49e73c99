import ApiTrace.Proofs.Identity.IdMap
import ApiTrace.Proofs.Sequence
import ApiTrace.Symbol.Dispatch
import Mathlib.Data.List.Induction

/-!
# One slot for each callback

The dispatch table is read by two loops that put one slot after the other. What the lines say does
not depend on the slots before, so a table all of whose lines are read comes down to a list of slots
in the order of the lines, and the loops put these. They come through exactly if no function is
repeated; otherwise they end at the first that is.
-/

namespace ApiTrace

/-! ## What the lines say -/

/-- What the line of a callback pointer says: the function of its type, and the slot that the group
and the line make. -/
def LeafDecodes (dialect : Dialect) (group : Declaration.StructField) (groupGuard : Option Guard)
    (line : GuardedLine) (entry : String × Slot) : Prop :=
  ∃ leaf, Declaration.structField line.text = .ok leaf ∧
    dialect.functionOfCallback? leaf.type.toList = some entry.1 ∧
      entry.2 = ⟨group.field, groupGuard, leaf.field, line.guard⟩

/-- A group of a dispatch table all of whose lines are read. -/
structure DecodedGroup (headers : List Header) (dialect : Dialect) where
  /-- The line in the table. -/
  line : GuardedLine
  field : Declaration.StructField
  /-- The header of the group's structure. -/
  header : Header
  /-- The kept lines of the group. -/
  leaves : List GuardedLine
  /-- The functions of the leaves with their slots. -/
  entries : List (String × Slot)
  read : Declaration.structField line.text = .ok field
  found : headers.find? (fun header => header.mentions field.type) = some header
  body : header.guardedBody field.type = .ok leaves
  decoded : leaves.Forall₂ (LeafDecodes dialect field line.guard) entries

/-- A dispatch table all of whose lines are read. -/
structure DecodedTable (headers : List Header) (dialect : Dialect) where
  /-- The header of the table. -/
  header : Header
  groups : List (DecodedGroup headers dialect)
  found : headers.find? (fun header => header.mentions dialect.dispatchTable) = some header
  body : header.guardedBody dialect.dispatchTable = .ok (groups.map DecodedGroup.line)
  nonempty : groups ≠ []

namespace DecodedTable

variable {headers : List Header} {dialect : Dialect}

/-- The kept lines of all groups. -/
def leaves (table : DecodedTable headers dialect) : List GuardedLine :=
  table.groups.flatMap DecodedGroup.leaves

/-- The functions of all leaves with their slots, in the order of the lines. -/
def entries (table : DecodedTable headers dialect) : List (String × Slot) :=
  table.groups.flatMap DecodedGroup.entries

theorem length_entries (table : DecodedTable headers dialect) :
    table.entries.length = table.leaves.length := by
  have each : table.groups.map (fun group => group.entries.length) =
      table.groups.map fun group => group.leaves.length :=
    List.map_congr_left fun group _ => group.decoded.length_eq.symm
  rw [entries, leaves, List.length_flatMap, List.length_flatMap, each]

/-- Every entry is what a leaf under its group says. -/
theorem exists_leaf (table : DecodedTable headers dialect) {entry : String × Slot}
    (member : entry ∈ table.entries) :
    ∃ group ∈ table.groups, ∃ line ∈ group.leaves,
      LeafDecodes dialect group.field group.line.guard line entry := by
  obtain ⟨group, among, within⟩ := List.mem_flatMap.mp member
  exact ⟨group, among, exists_item_of_forall₂ group.decoded within⟩

end DecodedTable

/-! ## Putting slots one after the other -/

/-- Put the slots of functions, each of which must not have one yet. -/
def addSlots (slots : NameMap Slot) (entries : List (String × Slot)) :
    Except ScanError (NameMap Slot) :=
  entries.foldlM (fun slots entry => (addSlot slots entry.1 entry.2).outcome) slots

section Slots

variable {slots : NameMap Slot} {entries : List (String × Slot)} {function : String}
  {first slot : Slot}

theorem addSlots_append (slots : NameMap Slot) (entries more : List (String × Slot)) :
    addSlots slots (entries ++ more) =
      addSlots slots entries >>= fun slots => addSlots slots more :=
  List.foldlM_append

theorem addSlots_cons (slots : NameMap Slot) (entry : String × Slot)
    (entries : List (String × Slot)) :
    addSlots slots (entry :: entries) =
      (addSlot slots entry.1 entry.2).outcome >>= fun slots => addSlots slots entries :=
  List.foldlM_cons

theorem outcome_addSlot_of_fresh (fresh : ∀ entry ∈ slots.entries, entry.1 ≠ function) :
    (addSlot slots function slot).outcome = .ok (slots.insert function slot) := by
  have free : slots.find? function = none := by
    rw [Option.eq_none_iff_forall_ne_some]
    intro first found
    exact fresh _ (NameMap.find?_eq_some_iff.mp found) rfl
  rw [addSlot, free]
  rfl

theorem outcome_addSlot_of_taken (taken : (function, first) ∈ slots.entries) :
    (addSlot slots function slot).outcome =
      .error (.severalSlots function first.memberPath slot.memberPath) := by
  rw [addSlot, NameMap.find?_eq_some_iff.mpr taken]
  rfl

/-- Slots of distinct functions come together. -/
theorem addSlots_of_nodup (apart : ((slots.entries ++ entries).map Prod.fst).Nodup) :
    ∃ more, addSlots slots entries = .ok more ∧ more.entries.Perm (slots.entries ++ entries) := by
  induction entries generalizing slots with
  | nil => exact ⟨slots, rfl, by rw [List.append_nil]⟩
  | cons entry entries ih =>
      have moved : (slots.entries ++ entry :: entries).Perm (entry :: slots.entries ++ entries) :=
        List.perm_middle
      have fresh : ∀ other ∈ slots.entries, other.1 ≠ entry.1 := by
        intro other member same
        rw [(moved.map Prod.fst).nodup_iff, List.cons_append, List.map_cons, List.nodup_cons,
          List.map_append] at apart
        exact apart.1 (List.mem_append_left _ (same ▸ List.mem_map_of_mem member))
      have inserted : ((slots.insert entry.1 entry.2).entries ++ entries).Perm
          (slots.entries ++ entry :: entries) :=
        ((NameMap.perm_putEntry fresh).append_right entries).trans moved.symm
      obtain ⟨more, added, perm⟩ := ih ((inserted.map Prod.fst).nodup_iff.mpr apart)
      refine ⟨more, ?_, perm.trans inserted⟩
      rw [addSlots_cons, outcome_addSlot_of_fresh fresh]
      exact added

/-- The first item whose value came before. -/
theorem exists_first_repeated {α β : Type} {value : α → β} {items : List α}
    (repeated : ¬(items.map value).Nodup) :
    ∃ before first item after, items = before ++ item :: after ∧ (before.map value).Nodup ∧
      first ∈ before ∧ value first = value item := by
  induction items using List.reverseRecOn with
  | nil => exact absurd List.nodup_nil repeated
  | append_singleton items item ih =>
      by_cases apart : (items.map value).Nodup
      · have again : value item ∈ items.map value := by
          by_contra fresh
          rw [List.map_append, List.map_singleton, ← List.concat_eq_append,
            List.nodup_concat] at repeated
          exact repeated ⟨fresh, apart⟩
        obtain ⟨first, member, same⟩ := List.mem_map.mp again
        exact ⟨items, first, item, [], rfl, apart, member, same⟩
      · obtain ⟨before, first, second, after, rfl, rest⟩ := ih apart
        exact ⟨before, first, second, after ++ [item],
          List.append_assoc before (second :: after) [item], rest⟩

/-- The first function that is repeated is refused. -/
theorem addSlots_of_not_nodup (repeated : ¬(entries.map Prod.fst).Nodup) :
    ∃ before function first second after, entries = before ++ (function, second) :: after ∧
      (before.map Prod.fst).Nodup ∧ (function, first) ∈ before ∧
        addSlots ∅ entries =
          .error (.severalSlots function first.memberPath second.memberPath) := by
  obtain ⟨before, ⟨function, first⟩, ⟨other, second⟩, after, rfl, apart, member, same⟩ :=
    exists_first_repeated repeated
  obtain rfl : function = other := same
  refine ⟨before, function, first, second, after, rfl, apart, member, ?_⟩
  obtain ⟨slots, added, perm⟩ :
      ∃ slots, addSlots ∅ before = .ok slots ∧ slots.entries.Perm before :=
    addSlots_of_nodup apart
  rw [addSlots_append, added, ok_bind, addSlots_cons,
    outcome_addSlot_of_taken (perm.mem_iff.mpr member)]
  rfl

/-- Exactly slots of distinct functions come through, and all of them do. -/
theorem addSlots_eq_ok_iff :
    addSlots ∅ entries = .ok slots ↔ (entries.map Prod.fst).Nodup ∧ slots.entries.Perm entries := by
  by_cases apart : (entries.map Prod.fst).Nodup
  · obtain ⟨added, ended, perm⟩ :
        ∃ added, addSlots ∅ entries = .ok added ∧ added.entries.Perm entries :=
      addSlots_of_nodup apart
    rw [ended, and_iff_right apart]
    constructor
    · rintro ⟨⟩
      exact perm
    · intro same
      rw [NameMap.eq_of_entries_perm (perm.trans same.symm)]
  · obtain ⟨_, _, _, _, _, _, _, _, refused⟩ := addSlots_of_not_nodup apart
    rw [refused]
    exact iff_of_false nofun fun given => apart given.1

theorem addSlots_flatMap {α : Type} (slots : NameMap Slot) (items : List α)
    (entriesOf : α → List (String × Slot)) :
    addSlots slots (items.flatMap entriesOf) =
      items.foldlM (fun slots item => addSlots slots (entriesOf item)) slots := by
  induction items generalizing slots with
  | nil => rfl
  | cons item items ih =>
      rw [List.flatMap_cons, addSlots_append, List.foldlM_cons]
      exact congrArg _ (funext ih)

end Slots

/-! ## The loops -/

section Loops

variable {headers : List Header} {dialect : Dialect} {header : Header}

theorem headerOf_eq_ok_iff {struct : String} :
    headerOf headers struct = .ok header ↔
      headers.find? (fun header => header.mentions struct) = some header := by
  unfold headerOf
  cases headers.find? fun header => header.mentions struct <;> simp

theorem mem_of_headerOf {struct : String}
    (found : headerOf headers struct = .ok header) : header ∈ headers :=
  List.mem_of_find?_eq_some (headerOf_eq_ok_iff.mp found)

theorem fieldOf_eq_ok_iff {line : GuardedLine} {field : Declaration.StructField} :
    fieldOf header line = .ok field ↔ Declaration.structField line.text = .ok field := by
  unfold fieldOf
  cases Declaration.structField line.text <;> simp

theorem callbackOf_eq_ok_iff {line : GuardedLine} {leaf : Declaration.StructField}
    {function : String} :
    callbackOf dialect header line leaf = .ok function ↔
      dialect.functionOfCallback? leaf.type.toList = some function := by
  unfold callbackOf
  cases dialect.functionOfCallback? leaf.type.toList <;> simp

variable {group : Declaration.StructField} {groupGuard : Option Guard} {line : GuardedLine}
  {slots more : NameMap Slot} {table : Header}

theorem outcome_addLeaf_of_decodes {entry : String × Slot}
    (decodes : LeafDecodes dialect group groupGuard line entry) :
    (addLeaf dialect header group groupGuard slots line).outcome =
      (addSlot slots entry.1 entry.2).outcome := by
  obtain ⟨leaf, read, function, slot⟩ := decodes
  simp only [addLeaf, Journalled.outcome_bind, Journalled.outcome_liftM, fieldOf_eq_ok_iff.mpr read,
    callbackOf_eq_ok_iff.mpr function, ok_bind, slot]

theorem exists_decodes_of_addLeaf
    (ended : (addLeaf dialect header group groupGuard slots line).outcome = .ok more) :
    ∃ entry, LeafDecodes dialect group groupGuard line entry := by
  unfold addLeaf at ended
  obtain ⟨leaf, read, ended⟩ := Journalled.liftM_bind_eq_ok ended
  obtain ⟨function, named, _⟩ := Journalled.liftM_bind_eq_ok ended
  exact ⟨(function, _), leaf, fieldOf_eq_ok_iff.mp read, callbackOf_eq_ok_iff.mp named, rfl⟩

theorem outcome_addGroup (headers : List Header) (table : Header) (slots : NameMap Slot)
    (line : GuardedLine) :
    (addGroup dialect headers table slots line).outcome =
      fieldOf table line >>= fun group => headerOf headers group.type >>= fun header =>
        header.guardedBody group.type >>= fun leaves =>
          leaves.foldlM (fun slots leaf =>
            (addLeaf dialect header group line.guard slots leaf).outcome) slots := by
  simp only [addGroup, Journalled.outcome_bind, Journalled.outcome_liftM, Journalled.outcome_foldlM]

theorem outcome_readSlots (headers : List Header) :
    (readSlots headers dialect).outcome =
      headerOf headers dialect.dispatchTable >>= fun table =>
        table.guardedBody dialect.dispatchTable >>= fun groups =>
          if groups.isEmpty then .error (.emptyStructure table.name dialect.dispatchTable)
          else groups.foldlM
            (fun slots line => (addGroup dialect headers table slots line).outcome) ∅ := by
  simp only [readSlots, Journalled.outcome_bind, Journalled.outcome_liftM, apply_ite,
    Journalled.outcome_foldlM]
  rfl

/-- A group that is decoded gives its slots. -/
theorem DecodedGroup.outcome_addGroup_line (decoded : DecodedGroup headers dialect) :
    (addGroup dialect headers table slots decoded.line).outcome =
      addSlots slots decoded.entries := by
  rw [outcome_addGroup, fieldOf_eq_ok_iff.mpr decoded.read, ok_bind,
    headerOf_eq_ok_iff.mpr decoded.found, ok_bind, decoded.body, ok_bind]
  apply foldlM_congr_of_forall₂ decoded.decoded
  intro leaf entry decodes before
  exact outcome_addLeaf_of_decodes decodes

theorem exists_decodedGroup
    (ended : (addGroup dialect headers table slots line).outcome = .ok more) :
    ∃ decoded : DecodedGroup headers dialect, line = decoded.line := by
  rw [outcome_addGroup] at ended
  obtain ⟨field, read, ended⟩ := bind_eq_ok ended
  obtain ⟨header, found, ended⟩ := bind_eq_ok ended
  obtain ⟨leaves, body, ended⟩ := bind_eq_ok ended
  have each (leaf : GuardedLine) (before after : NameMap Slot)
      (step : (addLeaf dialect header field line.guard before leaf).outcome = .ok after) :
      ∃ entry, LeafDecodes dialect field line.guard leaf entry := exists_decodes_of_addLeaf step
  obtain ⟨entries, decodes⟩ := exists_forall₂_of_foldlM each ended
  exact ⟨⟨line, field, header, leaves, entries, fieldOf_eq_ok_iff.mp read,
    headerOf_eq_ok_iff.mp found, body, decodes⟩, rfl⟩

/-- A table that is decoded gives its slots. -/
theorem DecodedTable.outcome_eq (decoded : DecodedTable headers dialect) :
    (readSlots headers dialect).outcome = addSlots ∅ decoded.entries := by
  have some : (decoded.groups.map DecodedGroup.line).isEmpty = false := by
    rw [List.isEmpty_map, List.isEmpty_eq_false_iff]
    exact decoded.nonempty
  rw [outcome_readSlots, headerOf_eq_ok_iff.mpr decoded.found, ok_bind, decoded.body, ok_bind, some,
    if_neg Bool.false_ne_true, entries, addSlots_flatMap, List.foldlM_map]
  simp only [DecodedGroup.outcome_addGroup_line]

theorem exists_decodedTable (ended : (readSlots headers dialect).outcome = .ok slots) :
    Nonempty (DecodedTable headers dialect) := by
  rw [outcome_readSlots] at ended
  obtain ⟨header, found, ended⟩ := bind_eq_ok ended
  obtain ⟨lines, body, ended⟩ := bind_eq_ok ended
  split at ended
  · contradiction
  rename_i nonempty
  have each (line : GuardedLine) (before after : NameMap Slot)
      (step : (addGroup dialect headers header before line).outcome = .ok after) :
      ∃ group : DecodedGroup headers dialect, line = group.line := exists_decodedGroup step
  obtain ⟨groups, decoded⟩ := exists_forall₂_of_foldlM each ended
  obtain rfl : lines = groups.map DecodedGroup.line := by
    rwa [← List.forall₂_eq_eq_eq, List.forall₂_map_right_iff]
  refine ⟨⟨header, groups, headerOf_eq_ok_iff.mp found, body, ?_⟩⟩
  rintro rfl
  exact nonempty rfl

end Loops

/-! ## The table -/

/-- A dispatch table is read exactly if all of its lines are and no function is repeated. The slots
are then those of its leaves, one for each of them. A table all of whose lines are read is otherwise
refused for the first function that is repeated, with its slot from before. -/
theorem readSlots_decodes (headers : List Header) (dialect : Dialect) :
    (∀ slots, (readSlots headers dialect).outcome = .ok slots ↔
      ∃ table : DecodedTable headers dialect, (table.entries.map Prod.fst).Nodup ∧
        slots.entries.Perm table.entries ∧ slots.entries.length = table.leaves.length) ∧
    ∀ table : DecodedTable headers dialect, ¬(table.entries.map Prod.fst).Nodup →
      ∃ before function first second after, table.entries = before ++ (function, second) :: after ∧
        (before.map Prod.fst).Nodup ∧ (function, first) ∈ before ∧
          (readSlots headers dialect).outcome =
            .error (.severalSlots function first.memberPath second.memberPath) := by
  constructor
  · intro slots
    constructor
    · intro ended
      obtain ⟨table⟩ := exists_decodedTable ended
      rw [table.outcome_eq, addSlots_eq_ok_iff] at ended
      exact ⟨table, ended.1, ended.2, ended.2.length_eq.trans table.length_entries⟩
    · rintro ⟨table, apart, perm, _⟩
      rw [table.outcome_eq]
      exact addSlots_eq_ok_iff.mpr ⟨apart, perm⟩
  · intro table repeated
    rw [table.outcome_eq]
    exact addSlots_of_not_nodup repeated

/-! ## A function in two groups -/

namespace Callbacks

def structures : Header where
  name := "ze_callbacks.h"
  lines := ["struct ze_global_callbacks_t \x7b", " ze_pfnInitCb_t pfnInitCb;", "\x7d;",
    "struct ze_driver_callbacks_t \x7b", "#ifdef ZE_PROPERTIES",
    " ze_pfnDriverGetCb_t pfnGetCb;", "#endif", " ze_pfnInitCb_t pfnStartCb;",
    "\x7d;"].map String.toList

/-- The header of a table with a given line in front of the group of drivers. -/
def api (first : String) : Header where
  name := "ze_api.h"
  lines := ["struct ze_callbacks_t \x7b", first, "#if ZE_DRIVER",
    " ze_driver_callbacks_t Driver;", "#endif", "\x7d;"].map String.toList

def globalLine : String :=
  " ze_global_callbacks_t Global;"

def global : DecodedGroup [structures, api globalLine] {} where
  line := ⟨2, "ze_global_callbacks_t Global;".toList, none⟩
  field := ⟨"ze_global_callbacks_t", "Global"⟩
  header := structures
  leaves := [⟨2, "ze_pfnInitCb_t pfnInitCb;".toList, none⟩]
  entries := [("zeInit", ⟨"Global", none, "pfnInitCb", none⟩)]
  read := toOption_eq_some_iff.mp (by decide +kernel)
  found := by decide +kernel
  body := toOption_eq_some_iff.mp (by decide +kernel)
  decoded := .cons ⟨⟨"ze_pfnInitCb_t", "pfnInitCb"⟩,
    toOption_eq_some_iff.mp (by decide +kernel), by decide +kernel, rfl⟩ .nil

def driver (first : String) : DecodedGroup [structures, api first] {} where
  line := ⟨4, "ze_driver_callbacks_t Driver;".toList, some ⟨"ZE_DRIVER"⟩⟩
  field := ⟨"ze_driver_callbacks_t", "Driver"⟩
  header := structures
  leaves := [⟨6, "ze_pfnDriverGetCb_t pfnGetCb;".toList, some ⟨"defined(ZE_PROPERTIES)"⟩⟩,
    ⟨8, "ze_pfnInitCb_t pfnStartCb;".toList, none⟩]
  entries :=
    [("zeDriverGet",
      ⟨"Driver", some ⟨"ZE_DRIVER"⟩, "pfnGetCb", some ⟨"defined(ZE_PROPERTIES)"⟩⟩),
    ("zeInit", ⟨"Driver", some ⟨"ZE_DRIVER"⟩, "pfnStartCb", none⟩)]
  read := toOption_eq_some_iff.mp (by decide +kernel)
  found := List.find?_cons_of_pos (by decide +kernel)
  body := toOption_eq_some_iff.mp (by decide +kernel)
  decoded :=
    .cons ⟨⟨"ze_pfnDriverGetCb_t", "pfnGetCb"⟩, toOption_eq_some_iff.mp (by decide +kernel),
      by decide +kernel, rfl⟩
      (.cons ⟨⟨"ze_pfnInitCb_t", "pfnStartCb"⟩, toOption_eq_some_iff.mp (by decide +kernel),
        by decide +kernel, rfl⟩ .nil)

/-- One group. -/
def apart : DecodedTable [structures, api ""] {} where
  header := api ""
  groups := [driver ""]
  found := by decide +kernel
  body := toOption_eq_some_iff.mp (by decide +kernel)
  nonempty := nofun

/-- Two groups, both with a callback for `zeInit`. -/
def repeated : DecodedTable [structures, api globalLine] {} where
  header := api globalLine
  groups := [global, driver globalLine]
  found := by decide +kernel
  body := toOption_eq_some_iff.mp (by decide +kernel)
  nonempty := nofun

/-- The slots of the one group. -/
def slots : NameMap Slot where
  entries := (driver "").entries
  ascending := by decide

end Callbacks

theorem readSlots_decodes_callbacks :
    ((Callbacks.apart.entries.map Prod.fst).Nodup ∧ Callbacks.apart.leaves.length = 2 ∧
      (readSlots [Callbacks.structures, Callbacks.api ""] {}).outcome = .ok Callbacks.slots) ∧
    ¬(Callbacks.repeated.entries.map Prod.fst).Nodup ∧
      ∃ before function first second after,
        Callbacks.repeated.entries = before ++ (function, second) :: after ∧
          (before.map Prod.fst).Nodup ∧ (function, first) ∈ before ∧
            (readSlots [Callbacks.structures, Callbacks.api Callbacks.globalLine] {}).outcome =
              .error (.severalSlots function first.memberPath second.memberPath) := by
  refine ⟨⟨by decide, rfl, ?accepted⟩, by decide, ?refused⟩
  case accepted =>
    exact ((readSlots_decodes _ _).1 Callbacks.slots).mpr
      ⟨Callbacks.apart, by decide, .refl _, rfl⟩
  case refused => exact (readSlots_decodes _ _).2 Callbacks.repeated (by decide)

end ApiTrace
