import ApiTrace.Proofs.Header.Conditional
import ApiTrace.Proofs.Symbol.DeclaredNames
import ApiTrace.Proofs.Symbol.Dispatch
import ApiTrace.Symbol.Table
import Mathlib.Data.List.Nodup

/-!
# Symbol tables that are built

Whatever the headers hold, the functions of a built table have distinct names, every part of a slot
can be written back, and the functions without a slot are exactly those that the table lists as
uncovered. Each reader is looked at once; a sequence of readings keeps what each of them keeps.
-/

namespace ApiTrace

/-! ## Readers of single lines -/

namespace Declaration

theorem forall_isWordChar_of_word? {text word rest : List Char}
    (read : word? text = some (word, rest)) :
    ∀ c ∈ word, Text.isWordChar c = true := by
  have first : word = text.takeWhile Text.isWordChar := by
    unfold word? at read
    split at read
    · contradiction
    · rename_i taken
      cases read
      exact taken.symm
  intro c member
  rw [first] at member
  exact List.all_eq_true.mp List.all_takeWhile c member

/-- A field and its type are words. -/
theorem forall_isWordChar_of_structField {line : List Char} {field : StructField}
    (read : structField line = .ok field) :
    (∀ c ∈ field.type.toList, Text.isWordChar c = true) ∧
      ∀ c ∈ field.field.toList, Text.isWordChar c = true := by
  have found : structField? line = some field := by
    unfold structField at read
    split at read
    · rename_i found
      cases read
      exact found
    · contradiction
  unfold structField? at found
  obtain ⟨⟨type, rest⟩, typeRead, found⟩ := Option.bind_eq_some_iff.mp found
  obtain ⟨blanks, _, found⟩ := Option.bind_eq_some_iff.mp found
  obtain ⟨⟨name, rest⟩, nameRead, found⟩ := Option.bind_eq_some_iff.mp found
  dsimp only at found
  split at found
  · cases found
    rw [String.toList_ofList, String.toList_ofList]
    exact ⟨forall_isWordChar_of_word? typeRead, forall_isWordChar_of_word? nameRead⟩
  · contradiction

/-- A parameter is made of characters of its line and of blanks. -/
theorem mem_of_parameterField {line : List Char} {name type : String}
    (read : parameterField line = .ok (name, type)) {c : Char}
    (member : c ∈ name.toList ∨ c ∈ type.toList) : c = ' ' ∨ c ∈ line := by
  unfold parameterField at read
  dsimp only at read
  split at read
  · contradiction
  · rename_i last lastWord
    split at read
    · contradiction
    split at read
    · rename_i first rest stripped
      split at read
      · rename_i pointed cut
        cases read
        rcases member with inName | inType
        · rw [String.toList_ofList] at inName
          have inLast : c ∈ last := by
            have kept : Text.dropEndWhile (· == ';') last <+: last := by
              rw [Text.dropEndWhile, ← List.reverse_suffix, List.reverse_reverse]
              exact List.dropWhile_suffix _
            exact kept.subset (stripped ▸ List.mem_cons_of_mem 'p' inName)
          exact .inr (Text.subset_of_mem_words (List.mem_of_getLast? lastWord) inLast)
        · rw [String.toList_ofList] at inType
          have inJoined : c ∈ [' '].intercalate (Text.words line).dropLast := by
            obtain ⟨rest, found, rfl⟩ := Option.map_eq_some_iff.mp cut
            have joined := Text.append_of_isPrefixOf?_eq_some found
            rw [← List.mem_reverse, joined]
            exact List.mem_append_right _
              (List.mem_reverse.mp ((Text.trimEnd_isPrefix _).subset inType))
          rcases Text.mem_of_mem_intercalate inJoined with blank | ⟨word, among, inWord⟩
          · exact .inl (List.mem_singleton.mp blank)
          · exact .inr (Text.subset_of_mem_words ((List.dropLast_prefix _).subset among) inWord)
      · contradiction
    · contradiction

end Declaration

/-! ## Bodies of structures -/

/-- Every line stands on one line. -/
def Header.Inline (header : Header) : Prop :=
  ∀ line ∈ header.lines, '\n' ∉ line

theorem Header.inline_ofText (name text : String) : (ofText name text).Inline :=
  fun _ member => Text.newline_not_mem_of_mem_lines member

theorem Header.mem_of_mem_slice {header : Header} {span : Span} {line : NumberedLine}
    (member : line ∈ header.slice span) : line.text ∈ header.lines := by
  obtain ⟨⟨text, number⟩, among, rfl⟩ := List.mem_map.mp member
  exact List.mem_of_mem_drop (List.mem_of_mem_take (List.fst_mem_of_mem_zipIdx among))

/-- Everything that is kept of a body can be written again. -/
theorem Header.plain_of_guardedBody {header : Header} (inline : header.Inline) {struct : String}
    {kept : List GuardedLine} (ended : header.guardedBody struct = .ok kept) :
    ∀ line ∈ kept, '\n' ∉ line.text ∧ ∀ guard ∈ line.guard, guard.Plain := by
  obtain ⟨span, _, ended⟩ := bind_eq_ok ended
  exact plain_of_keepLines (fun line member => inline line.text (mem_of_mem_slice member))
    (fun guard member => absurd member (by simp [Branch.guard?])) ended

/-! ## Parameters -/

/-- The name and the type of a parameter stand on one line. -/
def Parameter.Inline (parameter : Parameter) : Prop :=
  '\n' ∉ parameter.name.toList ∧ '\n' ∉ parameter.type.toList

theorem inline_of_addParameter {file function : String} {parameters more : List Parameter}
    {line : GuardedLine} (inline : '\n' ∉ line.text)
    (before : ∀ parameter ∈ parameters, parameter.Inline)
    (ended : addParameter file function parameters line = .ok more) :
    ∀ parameter ∈ more, parameter.Inline := by
  unfold addParameter at ended
  dsimp only at ended
  split at ended
  · contradiction
  · rename_i name type read
    split at ended
    · contradiction
    · cases ended
      rw [List.forall_mem_append, List.forall_mem_singleton]
      have absent (within : '\n' ∈ name.toList ∨ '\n' ∈ type.toList) : False :=
        (Declaration.mem_of_parameterField read within).elim (by decide) inline
      exact ⟨before, fun inName => absent (.inl inName), fun inType => absent (.inr inType)⟩

theorem inline_of_readParameters {header : Header} (inline : header.Inline)
    {function struct : String}
    {parameters : List Parameter} (ended : readParameters header function struct = .ok parameters) :
    ∀ parameter ∈ parameters, parameter.Inline := by
  obtain ⟨kept, body, ended⟩ := bind_eq_ok ended
  have plain := Header.plain_of_guardedBody inline body
  exact holds_of_foldlM
    (fun line member before after => inline_of_addParameter (plain line member).1)
    (fun parameter member => absurd member List.not_mem_nil) ended

/-! ## Slots -/

/-- A slot all of whose parts can be written. -/
structure Slot.Plain (slot : Slot) : Prop where
  groupField : ∀ c ∈ slot.groupField.toList, Text.isWordChar c = true
  groupGuard : ∀ guard ∈ slot.groupGuard, guard.Plain
  leafField : ∀ c ∈ slot.leafField.toList, Text.isWordChar c = true
  leafGuard : ∀ guard ∈ slot.leafGuard, guard.Plain

theorem Slot.Plain.guard {slot : Slot} (plain : slot.Plain) : ∀ guard ∈ slot.guard, guard.Plain :=
  Guard.plain_compose plain.groupGuard plain.leafGuard

/-- Every slot of the map can be written. -/
def PlainSlots (slots : NameMap Slot) : Prop :=
  ∀ function, ∀ slot ∈ slots.find? function, slot.Plain

/-- Every slot that is read can be written. -/
theorem plainSlots_of_readSlots {headers : List Header} (inline : ∀ header ∈ headers, header.Inline)
    {dialect : Dialect} {slots : NameMap Slot}
    (ended : (readSlots headers dialect).outcome = .ok slots) : PlainSlots slots := by
  obtain ⟨table⟩ := exists_decodedTable ended
  rw [table.outcome_eq, addSlots_eq_ok_iff] at ended
  have inlineOf {struct : String} {header : Header}
      (found : headers.find? (fun header => header.mentions struct) = some header) :
      header.Inline :=
    inline header (List.mem_of_find?_eq_some found)
  intro function slot found
  have member := ended.2.mem_iff.mp (NameMap.find?_eq_some_iff.mp found)
  obtain ⟨group, among, line, within, leaf, leafRead, _, rfl⟩ := table.exists_leaf member
  have groupPlain := Header.plain_of_guardedBody (inlineOf table.found) table.body group.line
    (List.mem_map_of_mem among)
  have leafPlain := Header.plain_of_guardedBody (inlineOf group.found) group.body line within
  exact ⟨(Declaration.forall_isWordChar_of_structField group.read).2, groupPlain.2,
    (Declaration.forall_isWordChar_of_structField leafRead).2, leafPlain.2⟩

/-! ## Functions -/

/-- A function as the dialect describes it. -/
structure Function.Described (dialect : Dialect) (function : Function) : Prop where
  parameterStruct : function.parameterStruct = dialect.parameterStruct function.name
  returnType : function.returnType = dialect.resultType
  inline : ∀ parameter ∈ function.parameters, parameter.Inline

theorem name_of_describeFunction {dialect : Dialect} {headers : List Header} {name : String}
    {function : Function} (ended : describeFunction dialect headers name = .ok function) :
    name = function.name := by
  unfold describeFunction at ended
  obtain ⟨header, _, ended⟩ := bind_eq_ok ended
  obtain ⟨parameters, _, ended⟩ := bind_eq_ok ended
  cases ended
  rfl

theorem map_name_of_mapM {dialect : Dialect} {headers : List Header} {names : List String}
    {functions : List Function}
    (ended : names.mapM (describeFunction dialect headers) = .ok functions) :
    functions.map Function.name = names := by
  have each : List.Forall₂ (fun name function => name = function.name) names functions :=
    (forall₂_of_mapM ended).imp fun _ _ => name_of_describeFunction
  rw [← List.forall₂_map_right_iff, List.forall₂_eq_eq_eq] at each
  exact each.symm

theorem described_of_describeFunction {dialect : Dialect} {headers : List Header}
    (inline : ∀ header ∈ headers, header.Inline) {name : String} {function : Function}
    (ended : describeFunction dialect headers name = .ok function) :
    function.Described dialect := by
  unfold describeFunction at ended
  obtain ⟨header, found, ended⟩ := bind_eq_ok ended
  obtain ⟨parameters, read, ended⟩ := bind_eq_ok ended
  cases ended
  exact ⟨rfl, rfl, inline_of_readParameters (inline header (mem_of_headerOf found)) read⟩

theorem described_of_mapM {dialect : Dialect} {headers : List Header}
    (inline : ∀ header ∈ headers, header.Inline) {names : List String} {functions : List Function}
    (ended : names.mapM (describeFunction dialect headers) = .ok functions) :
    ∀ function ∈ functions, function.Described dialect := by
  intro function member
  obtain ⟨name, _, read⟩ := exists_item_of_forall₂ (forall₂_of_mapM ended) member
  exact described_of_describeFunction inline read

/-! ## Functions without a slot -/

/-- The names of the functions without a slot. -/
def withoutSlot (slots : NameMap Slot) (functions : List Function) : List String :=
  (functions.filter fun function => !slots.contains function.name).map Function.name

theorem withoutSlot_eq_filter_map (slots : NameMap Slot) (functions : List Function) :
    withoutSlot slots functions =
      (functions.map Function.name).filter fun name => (slots.find? name).isNone := by
  rw [withoutSlot, List.filter_map]
  congr 1
  refine List.filter_congr fun function _ => ?_
  rw [NameMap.contains, Option.not_isSome, Function.comp_apply]

section Search

variable {dialect : Dialect} {slots : NameMap Slot} {functions : List Function}

theorem withoutSlot_cons_of_contains {function : Function}
    (covered : slots.contains function.name = true) :
    withoutSlot slots (function :: functions) = withoutSlot slots functions := by
  rw [withoutSlot, List.filter_cons_of_neg (by simp [covered]), withoutSlot]

theorem withoutSlot_cons_of_not_contains {function : Function}
    (without : ¬slots.contains function.name = true) :
    withoutSlot slots (function :: functions) = function.name :: withoutSlot slots functions := by
  rw [withoutSlot, List.filter_cons_of_pos (by simpa using without), List.map_cons, withoutSlot]

/-- The tolerant search names the functions without a slot. -/
theorem outcome_findUncovered_tolerant :
    (findUncovered dialect slots true functions).outcome = .ok (withoutSlot slots functions) := by
  induction functions with
  | nil => rfl
  | cons function functions ih =>
      unfold findUncovered
      split
      · rename_i covered
        rw [ih, withoutSlot_cons_of_contains covered]
      · rename_i without
        rw [withoutSlot_cons_of_not_contains without]
        simp only [if_true, Journalled.outcome_bind, Journalled.outcome_write, ih]
        rfl

/-- The strict search fails at the first function without a slot. -/
theorem outcome_findUncovered_strict : (findUncovered dialect slots false functions).outcome =
    match withoutSlot slots functions with
    | [] => .ok []
    | name :: _ => .error (.withoutSlot name dialect.dispatchTable) := by
  induction functions with
  | nil => rfl
  | cons function functions ih =>
      unfold findUncovered
      split
      · rename_i covered
        rw [ih, withoutSlot_cons_of_contains covered]
      · rename_i without
        rw [withoutSlot_cons_of_not_contains without]
        rfl

/-- Whichever search ends, it ends with the functions without a slot. -/
theorem uncovered_of_findUncovered {tolerant : Bool} {uncovered : List String}
    (ended : (findUncovered dialect slots tolerant functions).outcome = .ok uncovered) :
    uncovered = withoutSlot slots functions := by
  cases tolerant with
  | true =>
      rw [outcome_findUncovered_tolerant] at ended
      exact (Except.ok.inj ended).symm
  | false =>
      rw [outcome_findUncovered_strict] at ended
      split at ended
      · rename_i none
        rw [none]
        exact (Except.ok.inj ended).symm
      · contradiction

end Search

/-! ## Tables -/

/-- The functions without a slot, in the order of declaration. -/
def SymbolTable.unmapped (table : SymbolTable) : List Function :=
  table.functions.filter fun function => !table.slots.contains function.name

/-- What holds of every table that is built. -/
structure SymbolTable.Built (dialect : Dialect) (table : SymbolTable) : Prop where
  distinct : table.functionNames.Nodup
  described : ∀ function ∈ table.functions, function.Described dialect
  slots : PlainSlots table.slots
  uncovered : table.uncovered = table.unmapped.map Function.name

/-- A table that is built from headers that were read. -/
theorem built_of_buildTable {dialect : Dialect} {tolerant : Bool}
    {headers enumHeaders : List Header}
    (inline : ∀ header ∈ headers, header.Inline) {table : SymbolTable}
    (ended : (buildTable dialect tolerant headers enumHeaders).outcome = .ok table) :
    table.Built dialect := by
  unfold buildTable at ended
  obtain ⟨names, declared, ended⟩ := Journalled.bind_eq_ok ended
  obtain ⟨functions, functionsRead, ended⟩ := Journalled.bind_eq_ok ended
  obtain ⟨slots, slotsRead, ended⟩ := Journalled.bind_eq_ok ended
  obtain ⟨uncovered, missing, ended⟩ := Journalled.bind_eq_ok ended
  obtain ⟨enums, _, ended⟩ := Journalled.bind_eq_ok ended
  obtain ⟨_, _, ended⟩ := Journalled.bind_eq_ok ended
  cases ended
  exact
    { distinct := by
        rw [SymbolTable.functionNames, map_name_of_mapM functionsRead]
        exact (firstPlaces_of_declaredNames declared).nodup
      described := described_of_mapM inline functionsRead
      slots := plainSlots_of_readSlots inline slotsRead
      uncovered := uncovered_of_findUncovered missing }

namespace SymbolTable

variable {dialect : Dialect} {table : SymbolTable}

theorem mem_mapped_iff {function : Function} {slot : Slot} : (function, slot) ∈ table.mapped ↔
    function ∈ table.functions ∧ table.slots.find? function.name = some slot := by
  rw [mapped, List.mem_filterMap]
  constructor
  · rintro ⟨other, member, found⟩
    obtain ⟨place, placed, same⟩ := Option.map_eq_some_iff.mp found
    cases same
    exact ⟨member, placed⟩
  · rintro ⟨member, found⟩
    exact ⟨function, member, by rw [found, Option.map_some]⟩

theorem mem_unmapped_iff {function : Function} : function ∈ table.unmapped ↔
    function ∈ table.functions ∧ table.slots.find? function.name = none := by
  rw [unmapped, List.mem_filter, NameMap.contains, Bool.not_eq_true', Option.isSome_eq_false_iff,
    Option.isNone_iff_eq_none]

/-- A function is known by its name. -/
theorem Built.eq_of_name_eq (built : table.Built dialect) {function other : Function}
    (member : function ∈ table.functions) (otherMem : other ∈ table.functions)
    (same : other.name = function.name) : other = function :=
  List.inj_on_of_nodup_map built.distinct otherMem member same

theorem Built.nodup_functions (built : table.Built dialect) : table.functions.Nodup :=
  List.Nodup.of_map Function.name built.distinct

theorem Built.nodup_mapped (built : table.Built dialect) : table.mapped.Nodup := by
  refine built.nodup_functions.filterMap ?_
  intro first second entry inFirst inSecond
  obtain ⟨_, _, rfl⟩ := Option.map_eq_some_iff.mp inFirst
  obtain ⟨_, _, same⟩ := Option.map_eq_some_iff.mp inSecond
  exact (Prod.mk.inj same).1.symm

theorem Built.nodup_unmapped (built : table.Built dialect) : table.unmapped.Nodup :=
  built.nodup_functions.filter _

theorem Built.plain_guardOf (built : table.Built dialect) (function : String) :
    ∀ guard ∈ table.guardOf function, guard.Plain := by
  intro guard member
  obtain ⟨slot, found, ofSlot⟩ := Option.bind_eq_some_iff.mp member
  exact (built.slots function slot found).guard guard ofSlot

/-- A function is found under its name. -/
theorem Built.function? (built : table.Built dialect) {function : Function}
    (member : function ∈ table.functions) : table.function? function.name = some function := by
  obtain ⟨other, found⟩ : ∃ other, table.function? function.name = some other := by
    rw [← Option.isSome_iff_exists, SymbolTable.function?, List.find?_isSome]
    exact ⟨function, member, by simp⟩
  have same : other.name = function.name := by simpa using List.find?_some found
  rw [found, built.eq_of_name_eq member (List.mem_of_find?_eq_some found) same]

/-- The functions that are registered by themselves are those without a slot. -/
theorem Built.filterMap_uncovered (built : table.Built dialect) :
    table.uncovered.filterMap table.function? = table.unmapped := by
  rw [built.uncovered, List.filterMap_map]
  have each : ∀ function ∈ table.unmapped,
      (table.function? ∘ Function.name) function = some function := fun function member =>
    built.function? (mem_unmapped_iff.mp member).1
  rw [List.filterMap_congr each, List.filterMap_some]

end SymbolTable

end ApiTrace
