import ApiTrace.Proofs.Header.Body
import ApiTrace.Proofs.Symbol.Table

/-!
# Comments behind the lines of a structure

A comment behind a line of a body changes nothing that is read from the body, unless it holds a
closing brace: then the body ends at that line, as if the brace were code. Slots are read from
several bodies, which lie wherever their names are mentioned first, so there the comment must
moreover mention none of these names and must not open a structure that is mentioned but not opened
yet.
-/

namespace ApiTrace

open Header (trailing)

-- A text is decided by its own characters, not by those of the whole alphabet.
attribute [local instance (high)] List.decidableBAll

variable {header : Header} {index : Nat} {comment : List Char}

namespace Header

variable {more : List Char} {span : Span} {struct : String}

/-- The lines before the one that goes on are read as before. -/
theorem guardedLines_extend (header : Header) (start index : Nat) (more : List Char) :
    (header.extend index more).guardedLines ⟨start, index⟩ =
      header.guardedLines ⟨start, index⟩ := by
  have outside : ¬(start ≤ index ∧ index < index) := fun within => Nat.lt_irrefl index within.2
  exact congrArg (keepLines header.name false .outside) (slice_extend_of_outside outside)

theorem toOption_guardedBody_extend (same : (header.extend index (trailing comment)).body struct =
      header.body struct)
    (stays : ∀ span, header.body struct = .ok span → header.OpenBehind span index →
      Text.contains ['*', '/'] comment = false) :
    ((header.extend index (trailing comment)).guardedBody struct).toOption =
      (header.guardedBody struct).toOption := by
  apply toOption_bind_congr (by rw [same])
  exact fun span found => toOption_guardedLines_extend (stays span found)

/-- A body with a closing brace in it is read up to that line. -/
theorem guardedBody_extend_of_closing (found : header.body struct = .ok span)
    (reached : span.start ≤ index) (inside : index < span.stop) (closing : '\x7d' ∈ more) :
    (header.extend index more).guardedBody struct = header.guardedLines ⟨span.start, index⟩ := by
  rw [guardedBody, body_extend_of_closing found reached inside closing]
  exact guardedLines_extend header span.start index more

end Header

/-! ## Parameters -/

section Parameters

variable {struct : String} {span : Span}

theorem toOption_readParameters_extend (found : header.body struct = .ok span)
    (reached : span.start ≤ index) (inside : index < span.stop) (closed : '\x7d' ∉ comment)
    (stays : header.OpenBehind span index → Text.contains ['*', '/'] comment = false)
    (function : String) :
    (readParameters (header.extend index (trailing comment)) function struct).toOption =
      (readParameters header function struct).toOption := by
  have closedBehind : '\x7d' ∉ trailing comment :=
    (Header.mem_trailing_iff (by decide) (by decide)).not.mpr closed
  have unmoved := Header.body_extend_of_inside found reached inside closedBehind
  refine toOption_bind_congr (Header.toOption_guardedBody_extend (unmoved.trans found.symm) ?_)
    fun kept _ => rfl
  intro other otherFound
  rw [found] at otherFound
  cases otherFound
  exact stays

theorem readParameters_extend_of_closing (found : header.body struct = .ok span)
    (reached : span.start ≤ index) (inside : index < span.stop) (closing : '\x7d' ∈ comment)
    (function : String) :
    readParameters (header.extend index (trailing comment)) function struct =
      readParameters (header.extend index ['\x7d']) function struct := by
  have closingBehind : '\x7d' ∈ trailing comment :=
    (Header.mem_trailing_iff (by decide) (by decide)).mpr closing
  rw [readParameters, readParameters,
    Header.guardedBody_extend_of_closing found reached inside closingBehind,
    Header.guardedBody_extend_of_closing found reached inside List.mem_cons_self]
  rfl

end Parameters

/-! ## Enumerations -/

section Enumerations

variable {line : Nat} {name : String} {span : Span}

theorem toOption_readEnumeration_extend (found : header.bodyFrom line name = .ok span)
    (reached : span.start ≤ index) (inside : index < span.stop) (closed : '\x7d' ∉ comment)
    (stays : header.OpenBehind span index → Text.contains ['*', '/'] comment = false) :
    (readEnumeration (header.extend index (trailing comment)) line name).toOption =
      (readEnumeration header line name).toOption := by
  have closedBehind : '\x7d' ∉ trailing comment :=
    (Header.mem_trailing_iff (by decide) (by decide)).not.mpr closed
  have unmoved := Header.bodyFrom_extend_of_inside found reached inside closedBehind
  rw [readEnumeration, readEnumeration, unmoved, found, ok_bind, ok_bind]
  exact toOption_bind_congr (Header.toOption_guardedLines_extend stays) fun kept _ => rfl

theorem readEnumeration_extend_of_closing (found : header.bodyFrom line name = .ok span)
    (reached : span.start ≤ index) (inside : index < span.stop) (closing : '\x7d' ∈ comment) :
    readEnumeration (header.extend index (trailing comment)) line name =
      readEnumeration (header.extend index ['\x7d']) line name := by
  have closingBehind : '\x7d' ∈ trailing comment :=
    (Header.mem_trailing_iff (by decide) (by decide)).mpr closing
  rw [readEnumeration, readEnumeration,
    Header.bodyFrom_extend_of_closing found reached inside closingBehind,
    Header.bodyFrom_extend_of_closing found reached inside List.mem_cons_self, ok_bind, ok_bind,
    Header.guardedLines_extend, Header.guardedLines_extend]
  rfl

end Enumerations

/-! ## Slots -/

/-- The structures that are looked up for the slots: the dispatch table and the types of its fields.
-/
inductive SlotStructure (headers : List Header) (dialect : Dialect) : String → Prop
  | table : SlotStructure headers dialect dialect.dispatchTable
  | group {table : Header} {groups : List GuardedLine} {line : GuardedLine}
      {group : Declaration.StructField}
      (found : headerOf headers dialect.dispatchTable = .ok table)
      (read : table.guardedBody dialect.dispatchTable = .ok groups) (member : line ∈ groups)
      (field : fieldOf table line = .ok group) : SlotStructure headers dialect group.type

/-- A comment behind a line that leaves a structure where it is and as it is read. -/
structure Header.Spares (header : Header) (index : Nat) (comment : List Char) (struct : String) :
    Prop where
  unmentioned : Text.contains struct.toList comment = false
  opened : '\x7b' ∈ comment → ∀ mention, ¬header.Awaits struct index mention
  stays : ∀ span, header.body struct = .ok span → header.OpenBehind span index →
    Text.contains ['*', '/'] comment = false

section Slots

variable {before after : List Header} {dialect : Dialect} {struct : String}

/-- A header that goes on takes the place of the header. -/
theorem headerOf_extend (before after : List Header) (header : Header) (index : Nat)
    {more : List Char}
    (unmentioned : ∀ text,
      Text.contains struct.toList (text ++ more) = Text.contains struct.toList text) :
    headerOf (before ++ header.extend index more :: after) struct =
        headerOf (before ++ header :: after) struct ∨
      headerOf (before ++ header :: after) struct = .ok header ∧
        headerOf (before ++ header.extend index more :: after) struct =
          .ok (header.extend index more) := by
  have same : (header.extend index more).mentions struct = header.mentions struct := by
    rw [Header.mentions, Header.find?_extend unmentioned, Header.mentions]
  have names : headerNames (before ++ header.extend index more :: after) =
      headerNames (before ++ header :: after) := by
    rw [headerNames, headerNames, List.map_append, List.map_append, List.map_cons, List.map_cons]
    rfl
  simp only [headerOf, List.find?_append, List.find?_cons, same, names]
  cases before.find? fun header => header.mentions struct with
  | some first => exact .inl rfl
  | none =>
      cases header.mentions struct with
      | true => exact .inr ⟨rfl, rfl⟩
      | false => exact .inl rfl

theorem toOption_structure_extend {β : Type} (word : ∀ c ∈ struct.toList, Text.isWordChar c = true)
    (closed : '\x7d' ∉ comment) (spares : header.Spares index comment struct)
    {next other : Header → List GuardedLine → Except ScanError β}
    (agree : ∀ first second kept, headerOf (before ++ header :: after) struct = .ok first →
      first.guardedBody struct = .ok kept → second.name = first.name →
      (next second kept).toOption = (other first kept).toOption) :
    (headerOf (before ++ header.extend index (trailing comment) :: after) struct >>= fun first =>
      first.guardedBody struct >>= next first).toOption =
    (headerOf (before ++ header :: after) struct >>= fun first =>
      first.guardedBody struct >>= other first).toOption := by
  have closedBehind : '\x7d' ∉ trailing comment :=
    (Header.mem_trailing_iff (by decide) (by decide)).not.mpr closed
  have unmentioned := Header.contains_append_trailing word spares.unmentioned
  rcases headerOf_extend before after header index unmentioned with same | ⟨found, extended⟩
  · rw [same]
    exact toOption_bind_congr rfl fun first found =>
      toOption_bind_congr rfl fun kept read => agree first first kept found read rfl
  · rw [found, extended, ok_bind, ok_bind]
    have unmoved := Header.body_extend unmentioned closedBehind fun openedBehind =>
      spares.opened ((Header.mem_trailing_iff (by decide) (by decide)).mp openedBehind)
    exact toOption_bind_congr (Header.toOption_guardedBody_extend unmoved spares.stays)
      fun kept read => agree header _ kept found read rfl

/-- A leaf is read with the name of its header only. -/
theorem addLeaf_congr {first second : Header} (same : second.name = first.name) :
    addLeaf dialect second = addLeaf dialect first := by
  funext group groupGuard slots line
  simp only [addLeaf, fieldOf, callbackOf, same]

theorem toOption_readSlots_extend
    (word : ∀ c ∈ dialect.dispatchTable.toList, Text.isWordChar c = true)
    (closed : '\x7d' ∉ comment)
    (spares : ∀ struct, SlotStructure (before ++ header :: after) dialect struct →
      header.Spares index comment struct) :
    (readSlots (before ++ header.extend index (trailing comment) :: after)
        dialect).outcome.toOption =
      (readSlots (before ++ header :: after) dialect).outcome.toOption := by
  rw [outcome_readSlots, outcome_readSlots]
  apply toOption_structure_extend word closed (spares _ .table)
  intro table commented groups found read same
  rw [same]
  split
  · rfl
  · apply toOption_foldlM_congr
    intro line member slots
    have sameField : fieldOf commented line = fieldOf table line := by simp only [fieldOf, same]
    rw [outcome_addGroup, outcome_addGroup, sameField]
    apply toOption_bind_congr rfl
    intro group field
    have groupWord := Declaration.forall_isWordChar_of_structField (fieldOf_eq_ok_iff.mp field)
    apply toOption_structure_extend groupWord.1 closed (spares _ (.group found read member field))
    intro first second leaves _ _ same
    rw [addLeaf_congr same]

end Slots

/-! ## All readers -/

/-- A comment behind a line of a body changes neither the success nor the value of reading it,
unless it holds a closing brace: then the body ends at the line, as if the brace were code. Slots
are read alike if the comment spares every structure that is looked up for them. -/
theorem readers_ignore_trailing (header : Header) (index : Nat) (comment : List Char) :
    (∀ function struct span, header.body struct = .ok span →
      span.start ≤ index → index < span.stop →
      ('\x7d' ∉ comment →
        (header.OpenBehind span index → Text.contains ['*', '/'] comment = false) →
        (readParameters (header.extend index (trailing comment)) function struct).toOption =
          (readParameters header function struct).toOption) ∧
      ('\x7d' ∈ comment →
        readParameters (header.extend index (trailing comment)) function struct =
          readParameters (header.extend index ['\x7d']) function struct)) ∧
    (∀ line name span, header.bodyFrom line name = .ok span →
      span.start ≤ index → index < span.stop →
      ('\x7d' ∉ comment →
        (header.OpenBehind span index → Text.contains ['*', '/'] comment = false) →
        (readEnumeration (header.extend index (trailing comment)) line name).toOption =
          (readEnumeration header line name).toOption) ∧
      ('\x7d' ∈ comment →
        readEnumeration (header.extend index (trailing comment)) line name =
          readEnumeration (header.extend index ['\x7d']) line name)) ∧
    (∀ before after dialect, (∀ c ∈ dialect.dispatchTable.toList, Text.isWordChar c = true) →
      '\x7d' ∉ comment →
      (∀ struct, SlotStructure (before ++ header :: after) dialect struct →
        header.Spares index comment struct) →
      (readSlots (before ++ header.extend index (trailing comment) :: after)
          dialect).outcome.toOption =
        (readSlots (before ++ header :: after) dialect).outcome.toOption) := by
  refine ⟨?parameters, ?enumerations, ?slots⟩
  case parameters =>
    intro function struct span found reached inside
    exact ⟨fun closed stays =>
        toOption_readParameters_extend found reached inside closed stays function,
      fun closing => readParameters_extend_of_closing found reached inside closing function⟩
  case enumerations =>
    intro line name span found reached inside
    exact ⟨toOption_readEnumeration_extend found reached inside,
      readEnumeration_extend_of_closing found reached inside⟩
  case slots =>
    intro before after dialect word closed spares
    exact toOption_readSlots_extend word closed spares

namespace Commented

/-- Two parameters. -/
def parameters : Header where
  name := "ze_api.h"
  lines :=
    ["struct ze_init_params_t \x7b", " int* pflags;", " int* pcount;", "\x7d;"].map String.toList

/-- Two members. -/
def members : Header where
  name := "ze_api.h"
  lines := ["typedef enum ze_result_t \x7b", " ZE_SUCCESS = 0,", " ZE_NOT_READY", "\x7d;"].map
    String.toList

/-- A dispatch table before its only group. -/
def slots : Header where
  name := "ze_api.h"
  lines := ["struct ze_callbacks_t \x7b", " ze_group_t Global;", "\x7d;", "struct ze_group_t \x7b",
    " ze_pfnInitCb_t pfnInitCb;", "\x7d;"].map String.toList

/-- A comment with marks of all kinds but a closing brace. -/
def note : List Char :=
  "[in] #if \x7b; /* */ // nothing".toList

theorem body_parameters : parameters.body "ze_init_params_t" = .ok ⟨1, 3⟩ :=
  toOption_eq_some_iff.mp (by decide +kernel)

theorem body_table : slots.body "ze_callbacks_t" = .ok ⟨1, 2⟩ :=
  toOption_eq_some_iff.mp (by decide +kernel)

theorem toOption_readParameters_parameters :
    (readParameters parameters "zeInit" "ze_init_params_t").toOption =
      some [⟨"flags", "int"⟩, ⟨"count", "int"⟩] := by
  decide +kernel

theorem names_readSlots_slots :
    (readSlots [slots] {}).outcome.toOption.map (fun slots => slots.names) = some ["zeInit"] := by
  decide +kernel

/-- Only the table and its group are looked up. -/
theorem eq_of_slotStructure {struct : String} (looked : SlotStructure [slots] {} struct) :
    struct = "ze_callbacks_t" ∨ struct = "ze_group_t" := by
  cases looked with
  | table => exact .inl rfl
  | group found read member field =>
      have first : headerOf [slots] "ze_callbacks_t" = .ok slots :=
        toOption_eq_some_iff.mp (by decide +kernel)
      cases first.symm.trans found
      have groups : slots.guardedBody "ze_callbacks_t" =
          .ok [⟨2, "ze_group_t Global;".toList, none⟩] :=
        toOption_eq_some_iff.mp (by decide +kernel)
      cases groups.symm.trans read
      rw [List.mem_singleton.mp member] at field
      have only : fieldOf slots ⟨2, "ze_group_t Global;".toList, none⟩ =
          .ok ⟨"ze_group_t", "Global"⟩ :=
        toOption_eq_some_iff.mp (by decide +kernel)
      cases only.symm.trans field
      exact .inr rfl

/-- A comment behind the callback pointer concerns neither of them. -/
theorem spares_leaf {struct : String} (looked : SlotStructure [slots] {} struct) :
    slots.Spares 4 note struct := by
  rcases eq_of_slotStructure looked with rfl | rfl
  · constructor
    · decide +kernel
    · rintro _ _ ⟨mentioned, _, unopened⟩
      have first : slots.find? "ze_callbacks_t".toList = some 0 := by decide +kernel
      cases first.symm.trans mentioned
      exact unopened 0 _ (by decide) (by decide) rfl (by decide +kernel)
    · rintro span found ⟨_, inside, _⟩
      cases body_table.symm.trans found
      exact absurd inside (by decide)
  · constructor
    · decide +kernel
    · rintro _ _ ⟨mentioned, _, unopened⟩
      have first : slots.find? "ze_group_t".toList = some 1 := by decide +kernel
      cases first.symm.trans mentioned
      exact unopened 3 _ (by decide) (by decide) rfl (by decide +kernel)
    · intro span found opened
      have placed : slots.body "ze_group_t" = .ok ⟨4, 5⟩ :=
        toOption_eq_some_iff.mp (by decide +kernel)
      cases placed.symm.trans found
      exact absurd opened (Header.not_openBehind (by decide +kernel))

end Commented

/-- Comments behind a parameter, a member and a callback pointer. -/
theorem readers_ignore_note :
    (readParameters (Commented.parameters.extend 1 (trailing Commented.note)) "zeInit"
        "ze_init_params_t").toOption = some [⟨"flags", "int"⟩, ⟨"count", "int"⟩] ∧
      (readEnumeration (Commented.members.extend 1 (trailing Commented.note)) 0
        "ze_result_t").toOption =
        some ⟨"ze_result_t", [⟨"ZE_SUCCESS", .resolved 0⟩, ⟨"ZE_NOT_READY", .resolved 1⟩]⟩ ∧
      (readSlots [Commented.slots.extend 4 (trailing Commented.note)] {}).outcome.toOption.map
        (fun slots => slots.names) = some ["zeInit"] := by
  refine ⟨?parameters, ?members, ?slots⟩
  case parameters =>
    obtain ⟨ignored, _⟩ :=
      (readers_ignore_trailing Commented.parameters 1 Commented.note).1 "zeInit" _ _
      Commented.body_parameters (by decide) (by decide)
    rw [ignored (by decide +kernel) fun opened =>
      absurd opened (Header.not_openBehind (by decide +kernel))]
    exact Commented.toOption_readParameters_parameters
  case members =>
    have found : Commented.members.bodyFrom 0 "ze_result_t" = .ok ⟨1, 3⟩ :=
      toOption_eq_some_iff.mp (by decide +kernel)
    obtain ⟨ignored, _⟩ :=
      (readers_ignore_trailing Commented.members 1 Commented.note).2.1 _ _ _ found
      (by decide) (by decide)
    rw [ignored (by decide +kernel) fun opened =>
      absurd opened (Header.not_openBehind (by decide +kernel))]
    decide +kernel
  case slots =>
    have ignored := (readers_ignore_trailing Commented.slots 4 Commented.note).2.2 [] [] {}
      (by decide +kernel) (by decide +kernel) fun _ => Commented.spares_leaf
    rw [List.nil_append, List.nil_append] at ignored
    rw [ignored]
    exact Commented.names_readSlots_slots

/-- Braces are looked for in whole lines: a closing one in a comment ends the body of the
parameters, an opening one in the dispatch table opens the body of a group that is defined below. -/
theorem readers_see_trailing_braces :
    Commented.parameters.body "ze_init_params_t" = .ok ⟨1, 3⟩ ∧
      ¬Commented.parameters.OpenBehind ⟨1, 3⟩ 1 ∧
      (readParameters Commented.parameters "zeInit" "ze_init_params_t").toOption =
        some [⟨"flags", "int"⟩, ⟨"count", "int"⟩] ∧
      (readParameters (Commented.parameters.extend 1 (trailing ['\x7d'])) "zeInit"
        "ze_init_params_t").toOption = some [] ∧
      Commented.slots.body "ze_callbacks_t" = .ok ⟨1, 2⟩ ∧
      ¬Commented.slots.OpenBehind ⟨1, 2⟩ 1 ∧
      (readSlots [Commented.slots] {}).outcome.toOption.map (fun slots => slots.names) =
        some ["zeInit"] ∧
      (readSlots [Commented.slots.extend 1 (trailing ['\x7b'])] {}).outcome.toOption.map
        (fun slots => slots.names) = some [] :=
  ⟨Commented.body_parameters, Header.not_openBehind (by decide +kernel),
    Commented.toOption_readParameters_parameters, by decide +kernel, Commented.body_table,
    Header.not_openBehind (by decide +kernel), Commented.names_readSlots_slots, by decide +kernel⟩

end ApiTrace
