import ApiTrace.Proofs.Symbol.ParameterLayout

/-!
# Parameter structures one below another

In a header of parameter structures, the structure of a name is looked for by the first line that
contains the name. This is the opening line of a structure, and the parameters are the fields of
this structure, so a structure is read as its own only if none before it has the name within its
opening line.
-/

namespace ApiTrace

namespace ParameterStruct

variable {struct : ParameterStruct}

/-- The introduction, the braces and each field on a line of its own. -/
def block (struct : ParameterStruct) : List (List Token) :=
  struct.introduction :: [.opening] :: (struct.fields.map (fun field => [.field field]) ++
    [[.closing, .synonym struct.name]])

/-- The lines of a block, one kind at a time. -/
theorem mem_block_iff {line : List Token} : line ∈ struct.block ↔
    line = struct.introduction ∨ line = [.opening] ∨
      (∃ field ∈ struct.fields, line = [.field field]) ∨
      line = [.closing, .synonym struct.name] := by
  simp only [block, List.mem_cons, List.mem_append, List.mem_map, List.not_mem_nil, or_false,
    eq_comm]

theorem flatten_block (struct : ParameterStruct) : struct.block.flatten = struct.tokens := by
  have fields : (struct.fields.map fun field => [Token.field field]).flatten =
      struct.fields.map .field := by
    rw [← List.flatMap_def]
    exact List.map_eq_flatMap.symm
  rw [block, tokens, List.flatten_cons, List.flatten_cons, List.flatten_append, fields]
  rfl

theorem fieldsApart_block (struct : ParameterStruct) :
    fieldsApart struct.block = struct.fields := by
  rw [fieldsApart_eq_iff.mpr, flatten_block, fieldsIn_tokens]
  intro line member brace
  rcases mem_block_iff.mp member with rfl | rfl | ⟨field, _, rfl⟩ | rfl
  · rfl
  · rfl
  · contradiction
  · rfl

theorem length_fieldsIn_block {line : List Token} (member : line ∈ struct.block) :
    (fieldsIn line).length ≤ 1 := by
  rcases mem_block_iff.mp member with rfl | rfl | ⟨field, _, rfl⟩ | rfl
  · exact Nat.zero_le 1
  · exact Nat.zero_le 1
  · exact Nat.le_refl 1
  · exact Nat.zero_le 1

end ParameterStruct

section Blocks

variable {struct : ParameterStruct} {name : String} {lines : List (List Char)}

/-- A name that occurs in a line of a block occurs before the body or in a field. -/
theorem exists_of_mem_spelling (identifier : Text.isIdentifier name.toList = true)
    {tokens : List Token}
    (member : tokens ∈ struct.block) {word : List Char} (among : word ∈ spelling tokens)
    (within : Text.contains name.toList word = true) :
    struct.mentions name = true ∨
      ∃ field ∈ struct.fields, Text.contains name.toList field.text = true := by
  have inWord := Text.forall_isWordChar_of_isIdentifier identifier
  have nonempty := Text.ne_nil_of_isIdentifier identifier
  have notBrace {brace : Char} (outside : Text.isWordChar brace = false) :
      ¬Text.contains name.toList [brace] = true := by
    intro inside
    obtain ⟨c, rest, split⟩ := List.exists_cons_of_ne_nil nonempty
    have first : c ∈ name.toList := split ▸ List.mem_cons_self
    have same := List.mem_singleton.mp ((Text.contains_iff_isInfix.mp inside).subset first)
    rw [← same, inWord c first] at outside
    contradiction
  rcases ParameterStruct.mem_block_iff.mp member with rfl | rfl | ⟨field, inFields, rfl⟩ | rfl
  · obtain ⟨token, inIntroduction, inLexemes⟩ := List.mem_flatMap.mp among
    rw [(lexemes_of_mem_introduction inIntroduction).1, List.mem_singleton] at inLexemes
    exact .inl (List.any_eq_true.mpr ⟨token, inIntroduction, inLexemes ▸ within⟩)
  · rw [show spelling [.opening] = [['\x7b']] from rfl, List.mem_singleton] at among
    subst among
    exact absurd within (notBrace (by decide))
  · rw [spelling_field] at among
    have solid := Text.isBlank_of_mem_identifier identifier
    exact .inr ⟨field, inFields,
      (Text.contains_iff_exists_word nonempty solid).mpr ⟨word, among, within⟩⟩
  · rw [show spelling [.closing, .synonym struct.name] = [['\x7d'],
      struct.name.text.toList ++ [';']] from rfl, List.mem_cons, List.mem_singleton] at among
    rcases among with rfl | rfl
    · exact absurd within (notBrace (by decide))
    · -- The name behind the body stands before it, too.
      have absent : ';' ∉ name.toList := fun member => absurd (inWord ';' member) (by decide)
      rw [Text.contains_append_cons absent, Text.contains_nil_of_ne_nil nonempty, Bool.or_false,
        Text.contains_iff_isInfix] at within
      have tag : Text.contains name.toList (Token.tag struct.name).text = true :=
        Text.contains_iff_isInfix.mpr
          (within.trans (List.suffix_cons '_' struct.name.text.toList).isInfix)
      exact .inl (List.any_eq_true.mpr
        ⟨.tag struct.name, by simp [ParameterStruct.introduction], tag⟩)

/-- No line of a block contains a name that occurs neither before the body nor in a field. -/
theorem contains_eq_false_of_block (identifier : Text.isIdentifier name.toList = true)
    (written : Written lines struct.block) (unmentioned : struct.mentions name = false)
    (apart : ∀ field ∈ struct.fields, Text.contains name.toList field.text = false) :
    ∀ text ∈ lines, Text.contains name.toList text = false := by
  intro text member
  rw [← Bool.not_eq_true, Text.contains_iff_exists_lexeme identifier]
  rintro ⟨word, among, within⟩
  obtain ⟨tokens, inBlock, spelled⟩ := written.exists_tokens member
  rw [spelled] at among
  rcases exists_of_mem_spelling identifier inBlock among within with
    mentioned | ⟨field, inFields, inField⟩
  · rw [unmentioned] at mentioned
    contradiction
  · rw [apart field inFields] at inField
    contradiction

theorem contains_eq_false_of_blocks {blocks : List ParameterStruct}
    (identifier : Text.isIdentifier name.toList = true)
    (written : Written lines (blocks.flatMap ParameterStruct.block))
    (unmentioned : ∀ struct ∈ blocks, struct.mentions name = false)
    (apart : ∀ struct ∈ blocks,
      ∀ field ∈ struct.fields, Text.contains name.toList field.text = false) :
    ∀ text ∈ lines, Text.contains name.toList text = false := by
  induction blocks generalizing lines with
  | nil =>
      rw [Written, List.flatMap_nil, List.map_nil, List.map_eq_nil_iff] at written
      rw [written]
      exact List.forall_mem_nil _
  | cons struct blocks ih =>
      obtain ⟨first, rest, rfl, writtenFirst, writtenRest⟩ := Written.exists_append written
      obtain ⟨firstUnmentioned, restUnmentioned⟩ := List.forall_mem_cons.mp unmentioned
      obtain ⟨firstApart, restApart⟩ := List.forall_mem_cons.mp apart
      exact List.forall_mem_append.mpr
        ⟨contains_eq_false_of_block identifier writtenFirst firstUnmentioned firstApart,
          ih writtenRest restUnmentioned restApart⟩

end Blocks

/-- In a header of parameter structures whose fields do not contain a name, the parameters of the
name are the fields, in order, of the first structure that has the name within its opening line.
They are the fields of the structure of that name if no structure before it has the name there. -/
theorem readParameters_reads_first_mention (header : Header) (blocks : List ParameterStruct)
    (written : Written header.lines (blocks.flatMap ParameterStruct.block))
    (struct : ParameterStruct)
    (member : struct ∈ blocks)
    (apart : ∀ other ∈ blocks, ∀ field ∈ other.fields,
      Text.contains struct.name.text.toList field.text = false) (function : String) :
    ∃ first, blocks.find? (fun other => other.mentions struct.name.text) = some first ∧
      readParameters header function struct.name.text =
        .ok (first.fields.map PointerField.toParameter) ∧
        ∀ earlier later, blocks = earlier ++ struct :: later →
          (∀ other ∈ earlier, other.mentions struct.name.text = false) → first = struct := by
  have identifier := struct.name.identifier
  have some : (blocks.find? fun other => other.mentions struct.name.text).isSome = true := by
    rw [List.find?_isSome]
    exact ⟨struct, member, struct.mentions_name⟩
  obtain ⟨first, found⟩ := Option.isSome_iff_exists.mp some
  refine ⟨first, found, ?_, ?_⟩
  · obtain ⟨mentions, earlier, later, rfl, unmentioned⟩ := List.find?_eq_some_iff_append.mp found
    rw [List.flatMap_append, List.flatMap_cons] at written
    obtain ⟨before, rest, lines, writtenBefore, writtenRest⟩ := written.exists_append
    obtain ⟨own, behind, rfl, writtenOwn, _⟩ := writtenRest.exists_append
    have without : ∀ text ∈ before, Text.contains struct.name.text.toList text = false := by
      refine contains_eq_false_of_blocks identifier writtenBefore (fun other among => ?_)
        fun other among => apart other (List.mem_append_left _ among)
      simpa using unmentioned other among
    have read := readParameters_of_layout first.flatten_block
      (fun line among _ => first.length_fieldsIn_block among)
      lines writtenOwn identifier without mentions function
    rw [read, first.fieldsApart_block]
  · rintro earlier later rfl unmentioned
    have none : earlier.find? (fun other => other.mentions struct.name.text) = none := by
      rw [List.find?_eq_none]
      intro other among
      rw [unmentioned other among]
      exact Bool.false_ne_true
    rw [List.find?_append, none, Option.none_or, List.find?_cons, struct.mentions_name] at found
    exact (Option.some.inj found).symm

namespace Init

/-- A structure whose name ends like that of another. -/
def resize : ParameterStruct where
  name := ⟨"ze_resize_init_params_t", by decide +kernel⟩
  fields := [count]
  distinct := by decide +kernel

/-- The other structure. -/
def plain : ParameterStruct where
  name := parameters.name
  fields := [flags]
  distinct := by decide +kernel

/-- The shorter name first. -/
def shortFirst : Header :=
  header ["typedef struct _ze_init_params_t", "\x7b", "    int* pflags;", "\x7d ze_init_params_t;",
    "typedef struct _ze_resize_init_params_t", "\x7b", "    const long* pcount;",
    "\x7d ze_resize_init_params_t;"]

/-- The longer name first. -/
def longFirst : Header :=
  header ["typedef struct _ze_resize_init_params_t", "\x7b", "    const long* pcount;",
    "\x7d ze_resize_init_params_t;", "typedef struct _ze_init_params_t", "\x7b", "    int* pflags;",
    "\x7d ze_init_params_t;"]

end Init

theorem readParameters_reads_first_mention_resize :
    readParameters Init.shortFirst "zeResizeInit" "ze_resize_init_params_t" =
      .ok [⟨"count", "const long"⟩] := by
  have written :
      Written Init.shortFirst.lines ([Init.plain, Init.resize].flatMap ParameterStruct.block) := by
    decide +kernel
  have apart : ∀ other ∈ [Init.plain, Init.resize], ∀ field ∈ other.fields,
      Text.contains Init.resize.name.text.toList field.text = false := by decide +kernel
  obtain ⟨first, _, read, own⟩ := readParameters_reads_first_mention Init.shortFirst
    [Init.plain, Init.resize] written Init.resize (by simp) apart "zeResizeInit"
  obtain rfl := own [Init.plain] [] rfl (by decide +kernel)
  exact read

/-- The name of a structure may occur in the name of the structure before it. -/
theorem readParameters_reads_first_mention_long :
    Written Init.longFirst.lines ([Init.resize, Init.plain].flatMap ParameterStruct.block) ∧
      Init.resize.name.text ≠ Init.plain.name.text ∧
      (∀ struct ∈ [Init.resize, Init.plain], ∀ other ∈ [Init.resize, Init.plain],
        ∀ field ∈ other.fields, Text.contains struct.name.text.toList field.text = false) ∧
      Dialect.parameterStruct {} "zeResizeInit" = Init.resize.name.text ∧
      Dialect.parameterStruct {} "zeInit" = Init.plain.name.text ∧
      readParameters Init.longFirst "zeInit" Init.plain.name.text = .ok [⟨"count", "const long"⟩] :=
  ⟨by decide +kernel, by decide +kernel, by decide +kernel, by decide +kernel, by decide +kernel,
    toOption_eq_some_iff.mp (by decide +kernel)⟩

end ApiTrace
