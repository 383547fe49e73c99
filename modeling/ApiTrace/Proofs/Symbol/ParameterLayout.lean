import ApiTrace.Proofs.Symbol.ParameterLines
import Mathlib.Data.List.Flatten

/-!
# Layouts of a parameter structure

A layout distributes the tokens of a parameter structure over lines. Only the lines between the one
with the opening brace and the one with the closing brace are read, so a field that shares a line
with a brace is no parameter. All other fields are parameters, in order, if no two of them share a
line.
-/

namespace ApiTrace

-- A text is decided by its own characters, not by those of the whole alphabet.
attribute [local instance (high)] List.decidableBAll

/-! ## Parameter structures -/

/-- A parameter structure with fields of different names. -/
structure ParameterStruct where
  name : StructName
  fields : List PointerField
  distinct : (fields.map fun field => field.name).Nodup

namespace ParameterStruct

/-- The tokens before the body. -/
def introduction (struct : ParameterStruct) : List Token :=
  [.typedef, .struct, .tag struct.name]

/-- The tokens of the definition. -/
def tokens (struct : ParameterStruct) : List Token :=
  struct.introduction ++ .opening :: (struct.fields.map .field ++ [.closing, .synonym struct.name])

/-- Whether a name occurs before the body. -/
def mentions (struct : ParameterStruct) (name : String) : Bool :=
  struct.introduction.any fun token => Text.contains name.toList token.text

end ParameterStruct

/-- Whether there is a brace among tokens. -/
def hasBrace (tokens : List Token) : Bool :=
  tokens.any fun token => token.brace?.isSome

/-- The fields on lines without braces. -/
def fieldsApart (layout : List (List Token)) : List PointerField :=
  (layout.filter fun line => !hasBrace line).flatMap fieldsIn

/-! ## Layouts -/

/-- An item of a sequence that is cut into lines stands on one of them. -/
theorem exists_line_of_flatten {α : Type} {lines : List (List α)} {first second : List α} {item : α}
    (flat : lines.flatten = first ++ item :: second) :
    ∃ before start rest after, lines = before ++ (start ++ item :: rest) :: after ∧
      first = before.flatten ++ start ∧ second = rest ++ after.flatten := by
  induction lines generalizing first with
  | nil => simp at flat
  | cons line lines ih =>
      rw [List.flatten_cons] at flat
      have later (gap : List α) (same : lines.flatten = gap ++ item :: second)
          (start : first = line ++ gap) :
          ∃ before start rest after, line :: lines = before ++ (start ++ item :: rest) :: after ∧
            first = before.flatten ++ start ∧ second = rest ++ after.flatten := by
        obtain ⟨before, head, rest, after, rfl, rfl, tail⟩ := ih same
        exact ⟨line :: before, head, rest, after, rfl,
          by rw [start, List.flatten_cons, List.append_assoc], tail⟩
      rcases List.append_eq_append_iff.mp flat with ⟨gap, start, same⟩ | ⟨gap, start, same⟩
      · exact later gap same start
      · cases gap with
        | nil =>
            rw [List.append_nil] at start
            exact later [] same.symm (by rw [start, List.append_nil])
        | cons c gap =>
            obtain ⟨rfl, tail⟩ := List.cons.inj same
            exact ⟨[], first, gap, lines, by rw [start]; rfl, rfl, tail⟩

section Layouts

variable {layout : List (List Token)} {first second : List (List Token)}

theorem fieldsApart_append (first second : List (List Token)) :
    fieldsApart (first ++ second) = fieldsApart first ++ fieldsApart second := by
  rw [fieldsApart, List.filter_append, List.flatMap_append, fieldsApart, fieldsApart]

theorem fieldsApart_cons_of_brace {line : List Token} (brace : hasBrace line = true)
    (layout : List (List Token)) :
    fieldsApart (line :: layout) = fieldsApart layout := by
  rw [fieldsApart, List.filter_cons_of_neg (by simp [brace]), fieldsApart]

theorem fieldsApart_sublist (layout : List (List Token)) :
    (fieldsApart layout).Sublist (fieldsIn layout.flatten) := by
  rw [fieldsIn_flatten]
  exact List.filter_sublist.flatMap fieldsIn

/-- All fields stand on lines without braces exactly if no line with a brace has a field. -/
theorem fieldsApart_eq_iff : fieldsApart layout = fieldsIn layout.flatten ↔
    ∀ line ∈ layout, hasBrace line = true → fieldsIn line = [] := by
  induction layout with
  | nil => simp [fieldsApart, fieldsIn]
  | cons line layout ih =>
      rw [List.forall_mem_cons, ← ih, List.flatten_cons, fieldsIn_append]
      cases brace : hasBrace line with
      | false =>
          rw [fieldsApart, List.filter_cons_of_pos (by simp [brace]), List.flatMap_cons,
            ← fieldsApart]
          simp
      | true =>
          rw [fieldsApart_cons_of_brace brace]
          constructor
          · intro same
            have short := (fieldsApart_sublist layout).length_le
            have empty : fieldsIn line = [] := by
              rw [same, List.length_append] at short
              exact List.length_eq_zero_iff.mp (by omega)
            exact ⟨fun _ => empty, by simpa [empty] using same⟩
          · rintro ⟨empty, same⟩
            rw [empty rfl, same, List.nil_append]

theorem fieldsApart_of_plain (plain : ∀ line ∈ layout, hasBrace line = false) :
    fieldsApart layout = layout.flatMap fieldsIn := by
  rw [fieldsApart, List.filter_eq_self.mpr fun line member => by rw [plain line member]; rfl]

theorem fieldsApart_eq_nil (none : fieldsIn layout.flatten = []) : fieldsApart layout = [] :=
  List.sublist_nil.mp (none ▸ fieldsApart_sublist layout)

theorem hasBrace_append_cons {token : Token} {brace : Char} (same : token.brace? = some brace)
    (before after : List Token) : hasBrace (before ++ token :: after) = true :=
  List.any_eq_true.mpr ⟨token, by simp, by rw [same]; rfl⟩

theorem hasBrace_of_fields {tokens : List Token}
    (only : ∀ token ∈ tokens, ∃ pointer, token = .field pointer) :
    hasBrace tokens = false := by
  rw [hasBrace, List.any_eq_false]
  intro token member
  obtain ⟨pointer, rfl⟩ := only token member
  nofun

/-- How the braces of a structure stand on the lines of a layout. -/
inductive BraceShape (struct : ParameterStruct) : List (List Token) → Prop where
  /-- Both on one line. -/
  | together {before behind : List (List Token)} {start last ending : List Token}
    (introduction : struct.introduction = before.flatten ++ start)
    (conclusion : [.synonym struct.name] = ending ++ behind.flatten) :
    BraceShape struct (before ++ (start ++ .opening :: (last ++ .closing :: ending)) :: behind)
  /-- On two lines. -/
  | apart {before inner behind : List (List Token)} {start rest last ending : List Token}
    (introduction : struct.introduction = before.flatten ++ start)
    (fields : struct.fields.map .field = rest ++ (inner.flatten ++ last))
    (conclusion : [.synonym struct.name] = ending ++ behind.flatten) :
    BraceShape struct
      (before ++ (start ++ .opening :: rest) :: (inner ++ (last ++ .closing :: ending) :: behind))

section Shapes

variable {struct : ParameterStruct} {before inner behind : List (List Token)}
  {start rest last ending : List Token}

theorem braceShape_of_flatten (flat : layout.flatten = struct.tokens) :
    BraceShape struct layout := by
  obtain ⟨before, start, rest, after, rfl, introduction, remaining⟩ := exists_line_of_flatten flat
  have closing : (rest :: after).flatten =
      struct.fields.map .field ++ .closing :: [.synonym struct.name] :=
    remaining.symm
  obtain ⟨between, last, ending, behind, split, fields, conclusion⟩ :=
    exists_line_of_flatten closing
  cases between with
  | nil =>
      obtain ⟨rfl, rfl⟩ := List.cons.inj split
      exact .together introduction conclusion
  | cons first inner =>
      rw [List.cons_append] at split
      obtain ⟨rfl, rfl⟩ := List.cons.inj split
      rw [List.flatten_cons, List.append_assoc] at fields
      exact .apart introduction fields conclusion

theorem lexemes_of_mem_introduction {token : Token} (member : token ∈ struct.introduction) :
    token.lexemes = [token.text] ∧ token.brace? = none := by
  simp only [ParameterStruct.introduction, List.mem_cons, List.not_mem_nil, or_false] at member
  rcases member with rfl | rfl | rfl <;> exact ⟨rfl, rfl⟩

theorem fieldsApart_before (introduction : struct.introduction = before.flatten ++ start) :
    fieldsApart before = [] := by
  have none : fieldsIn struct.introduction = [] := rfl
  rw [introduction, fieldsIn_append, List.append_eq_nil_iff] at none
  exact fieldsApart_eq_nil none.1

theorem fieldsApart_behind (conclusion : [.synonym struct.name] = ending ++ behind.flatten) :
    fieldsApart behind = [] := by
  have none : fieldsIn [.synonym struct.name] = [] := rfl
  rw [conclusion, fieldsIn_append, List.append_eq_nil_iff] at none
  exact fieldsApart_eq_nil none.2

theorem fieldsApart_of_together (introduction : struct.introduction = before.flatten ++ start)
    (conclusion : [.synonym struct.name] = ending ++ behind.flatten) :
    fieldsApart (before ++ (start ++ .opening :: (last ++ .closing :: ending)) :: behind) = [] := by
  rw [fieldsApart_append, fieldsApart_before introduction,
    fieldsApart_cons_of_brace (hasBrace_append_cons rfl _ _), fieldsApart_behind conclusion,
    List.append_nil]

theorem forall_field (fields : struct.fields.map .field = rest ++ (inner.flatten ++ last)) :
    ∀ token ∈ rest ++ (inner.flatten ++ last), ∃ pointer, token = .field pointer := by
  intro token member
  rw [← fields] at member
  obtain ⟨pointer, _, rfl⟩ := List.mem_map.mp member
  exact ⟨pointer, rfl⟩

theorem forall_field_of_inner (fields : struct.fields.map .field = rest ++ (inner.flatten ++ last))
    {line : List Token} (among : line ∈ inner) :
    ∀ token ∈ line, ∃ pointer, token = .field pointer := by
  intro token member
  apply forall_field fields
  exact List.mem_append_right _
    (List.mem_append_left _ (List.mem_flatten.mpr ⟨line, among, member⟩))

/-- Of two lines with braces, the first has no closing one. -/
theorem closing_not_mem (introduction : struct.introduction = before.flatten ++ start)
    (fields : struct.fields.map .field = rest ++ (inner.flatten ++ last)) :
    .closing ∉ start ++ .opening :: rest := by
  intro member
  rcases List.mem_append.mp member with inStart | inRest
  · have early : Token.closing ∈ struct.introduction := by
      rw [introduction]
      exact List.mem_append_right _ inStart
    exact absurd (lexemes_of_mem_introduction early).2 nofun
  · have late : Token.closing ∈ rest := by simpa using inRest
    obtain ⟨pointer, same⟩ := forall_field fields _ (List.mem_append_left _ late)
    contradiction

theorem inner_sublist (fields : struct.fields.map .field = rest ++ (inner.flatten ++ last)) :
    (inner.flatMap fieldsIn).Sublist struct.fields := by
  have all : fieldsIn rest ++ (inner.flatMap fieldsIn ++ fieldsIn last) = struct.fields := by
    rw [← fieldsIn_flatten, ← fieldsIn_append, ← fieldsIn_append, ← fields, fieldsIn_map_field]
  rw [← all]
  exact (List.sublist_append_left _ _).trans (List.sublist_append_right _ _)

theorem fieldsApart_of_apart (introduction : struct.introduction = before.flatten ++ start)
    (fields : struct.fields.map .field = rest ++ (inner.flatten ++ last))
    (conclusion : [.synonym struct.name] = ending ++ behind.flatten) :
    fieldsApart (before ++ (start ++ .opening :: rest) ::
        (inner ++ (last ++ .closing :: ending) :: behind)) =
      inner.flatMap fieldsIn := by
  have bare : ∀ line ∈ inner, hasBrace line = false := fun line among =>
    hasBrace_of_fields (forall_field_of_inner fields among)
  rw [fieldsApart_append, fieldsApart_before introduction,
    fieldsApart_cons_of_brace (hasBrace_append_cons rfl _ _), fieldsApart_append,
    fieldsApart_of_plain bare, fieldsApart_cons_of_brace (hasBrace_append_cons rfl _ _),
    fieldsApart_behind conclusion, List.append_nil, List.nil_append]

end Shapes

/-- A line of fields with at most one of them. -/
theorem fieldLine_of_length_le {line : List Token}
    (only : ∀ token ∈ line, ∃ pointer, token = .field pointer)
    (short : (fieldsIn line).length ≤ 1) : FieldLine line := by
  cases line with
  | nil => exact .inl rfl
  | cons token line =>
      obtain ⟨pointer, rfl⟩ := only token List.mem_cons_self
      cases line with
      | nil => exact .inr ⟨pointer, rfl⟩
      | cons next line =>
          obtain ⟨other, rfl⟩ := only next (List.mem_cons_of_mem _ List.mem_cons_self)
          exact absurd short (by simp [fieldsIn, Token.field?])

end Layouts

/-! ## The body of a structure -/

section Reading

variable {header : Header} {name : String} {struct : ParameterStruct}
  {earlier own later : List (List Char)}
  {layout : List (List Token)}

theorem contains_of_token (identifier : Text.isIdentifier name.toList = true) {line : List Char}
    {tokens : List Token} {token : Token} (spelled : Text.lexemes line = spelling tokens)
    (member : token ∈ tokens)
    (lexemes : token.lexemes = [token.text])
    (within : Text.contains name.toList token.text = true) :
    Text.contains name.toList line = true := by
  rw [Text.contains_iff_exists_lexeme identifier, spelled]
  refine ⟨token.text, List.mem_flatMap.mpr ⟨token, member, ?_⟩, within⟩
  rw [lexemes]
  exact List.mem_singleton_self _

/-- The body opens on the line with the opening brace. -/
theorem opensBody_of_written {start rest : List Token} {before : List (List Token)}
    {ownBefore ownAfter : List (List Char)} {opens : List Char}
    (introduction : struct.introduction = before.flatten ++ start)
    (lines : header.lines = earlier ++ (ownBefore ++ opens :: (ownAfter ++ later)))
    (writtenBefore : Written ownBefore before)
    (spelled : Text.lexemes opens = spelling (start ++ .opening :: rest))
    (identifier : Text.isIdentifier name.toList = true)
    (unmentioned : ∀ text ∈ earlier, Text.contains name.toList text = false)
    (mentions : struct.mentions name = true) :
    header.OpensBody name (earlier ++ ownBefore) opens (ownAfter ++ later) := by
  apply Header.opensBody_of_mention lines unmentioned
  case mentioned =>
    obtain ⟨token, member, within⟩ := List.any_eq_true.mp mentions
    have lexemes := (lexemes_of_mem_introduction member).1
    rw [introduction] at member
    rcases List.mem_append.mp member with inBefore | inStart
    · obtain ⟨tokens, among, member⟩ := List.mem_flatten.mp inBefore
      obtain ⟨line, inLines, lineSpelled⟩ := writtenBefore.exists_line among
      exact ⟨line, List.mem_append_left _ inLines,
        contains_of_token identifier lineSpelled member lexemes within⟩
    · exact ⟨opens, by simp,
        contains_of_token identifier spelled (List.mem_append_left _ inStart) lexemes within⟩
  case unopened =>
    intro text member
    obtain ⟨tokens, among, lineSpelled⟩ := writtenBefore.exists_tokens member
    rw [opening_mem_iff lineSpelled]
    intro opening
    have early : Token.opening ∈ struct.introduction := by
      rw [introduction]
      exact List.mem_append_left _ (List.mem_flatten.mpr ⟨tokens, among, opening⟩)
    exact absurd (lexemes_of_mem_introduction early).2 nofun
  case opening =>
    exact (opening_mem_iff spelled).mpr (by simp)

/-- A body that is closed on its opening line has no parameters. -/
theorem readParameters_of_closing {before behind : List (List Char)} {opens : List Char}
    (opened : header.OpensBody name before opens behind)
    (closing : Header.closesOnOpeningLine opens = true)
    (function : String) : readParameters header function name = .ok [] := by
  have empty : header.slice ⟨before.length + 1, before.length + 1⟩ = [] := by
    rw [Header.slice, Nat.sub_self, List.take_zero]
    rfl
  have written :
      Written ((header.slice ⟨before.length + 1, before.length + 1⟩).map NumberedLine.text) [] := by
    rw [empty]
    rfl
  exact readParameters_of_body (opened.body_of_closing closing) written
    (List.forall_mem_nil _) .nil function

/-- The lines between the braces are read if each has at most one field. -/
theorem readParameters_of_later {before inner after : List (List Char)} {opens closes : List Char}
    (opened : header.OpensBody name before opens (inner ++ closes :: after))
    (apart : Header.closesOnOpeningLine opens = false) (closing : '\x7d' ∈ closes)
    (written : Written inner layout)
    (single : ∀ line ∈ layout, FieldLine line)
    (distinct : ((layout.flatMap fieldsIn).map fun field => field.name).Nodup) (function : String) :
    readParameters header function name =
      .ok ((layout.flatMap fieldsIn).map PointerField.toParameter) := by
  have unclosed : ∀ text ∈ inner, '\x7d' ∉ text := by
    intro text member
    obtain ⟨tokens, among, spelled⟩ := written.exists_tokens member
    rw [closing_mem_iff spelled]
    rcases single tokens among with rfl | ⟨pointer, rfl⟩ <;> simp
  have split : header.lines = (before ++ [opens]) ++ (inner ++ closes :: after) := by
    rw [opened.lines]
    simp
  have between := Header.map_text_slice split
  rw [List.length_append, List.length_singleton] at between
  exact readParameters_of_body (opened.body_of_later apart unclosed closing)
    (between.symm ▸ written) single distinct
    function

/-- The fields on lines without braces are read if no two of them share a line. -/
theorem readParameters_of_layout (flat : layout.flatten = struct.tokens)
    (sole : ∀ line ∈ layout, hasBrace line = false → (fieldsIn line).length ≤ 1)
    (lines : header.lines = earlier ++ (own ++ later)) (written : Written own layout)
    (identifier : Text.isIdentifier name.toList = true)
    (unmentioned : ∀ text ∈ earlier, Text.contains name.toList text = false)
    (mentions : struct.mentions name = true) (function : String) :
    readParameters header function name =
      .ok ((fieldsApart layout).map PointerField.toParameter) := by
  have opens {before : List (List Token)} {start rest : List Token}
      {ownBefore ownAfter : List (List Char)}
      {opens : List Char} (introduction : struct.introduction = before.flatten ++ start)
      (own_eq : own = ownBefore ++ opens :: ownAfter) (writtenBefore : Written ownBefore before)
      (spelled : Text.lexemes opens = spelling (start ++ .opening :: rest)) :
      header.OpensBody name (earlier ++ ownBefore) opens (ownAfter ++ later) := by
    refine opensBody_of_written introduction ?_ writtenBefore spelled identifier
      unmentioned mentions
    rw [lines, own_eq, List.append_assoc, List.cons_append]
  cases braceShape_of_flatten flat with
  | @together before behind start last ending introduction conclusion =>
      obtain ⟨ownBefore, ownRest, own_eq, writtenBefore, writtenRest⟩ := written.exists_append
      obtain ⟨opening, ownAfter, rfl, spelled, _⟩ := writtenRest.exists_cons
      rw [fieldsApart_of_together introduction conclusion]
      have braces : [Token.opening, .closing].Sublist
          (start ++ .opening :: (last ++ .closing :: ending)) := by
        have closing : [Token.closing].Sublist (last ++ .closing :: ending) :=
          List.singleton_sublist.mpr (by simp)
        exact (closing.cons_cons .opening).trans (List.sublist_append_right start _)
      exact readParameters_of_closing (opens introduction own_eq writtenBefore spelled)
        (closesOnOpeningLine_of_tokens spelled braces) function
  | @apart before inner behind start rest last ending introduction fields conclusion =>
      obtain ⟨ownBefore, ownRest, own_eq, writtenBefore, writtenRest⟩ := written.exists_append
      obtain ⟨opening, ownAfter, rfl, spelled, writtenAfter⟩ := writtenRest.exists_cons
      obtain ⟨ownInner, ownLast, rfl, writtenInner, writtenLast⟩ := writtenAfter.exists_append
      obtain ⟨closing, ownBehind, rfl, closingSpelled, _⟩ := writtenLast.exists_cons
      have opened := opens introduction own_eq writtenBefore spelled
      rw [List.append_assoc, List.cons_append] at opened
      have single : ∀ line ∈ inner, FieldLine line := by
        intro line among
        have only := forall_field_of_inner fields among
        exact fieldLine_of_length_le only (sole line (by simp [among]) (hasBrace_of_fields only))
      rw [fieldsApart_of_apart introduction fields conclusion]
      exact readParameters_of_later opened
        (closesOnOpeningLine_eq_false spelled (closing_not_mem introduction fields))
        ((closing_mem_iff closingSpelled).mpr (by simp)) writtenInner single
        (struct.distinct.sublist ((inner_sublist fields).map _)) function

end Reading

/-! ## All layouts -/

theorem ParameterStruct.mentions_name (struct : ParameterStruct) :
    struct.mentions struct.name.text = true := by
  have tag : Text.contains struct.name.text.toList (Token.tag struct.name).text = true :=
    Text.contains_iff_isInfix.mpr (List.suffix_cons '_' struct.name.text.toList).isInfix
  exact List.any_eq_true.mpr ⟨.tag struct.name, by simp [introduction], tag⟩

theorem ParameterStruct.fieldsIn_tokens (struct : ParameterStruct) :
    fieldsIn struct.tokens = struct.fields := by
  have around : fieldsIn struct.tokens =
      fieldsIn (struct.fields.map .field) ++ fieldsIn [.closing, .synonym struct.name] :=
    fieldsIn_append (struct.fields.map .field) [.closing, .synonym struct.name]
  rw [around, fieldsIn_map_field]
  exact List.append_nil struct.fields

/-- However a parameter structure is laid out over lines of a header, behind lines that do not
mention it: if no two fields share a line without a brace, exactly the fields on lines without
braces are its parameters, in order. These are all of its fields exactly if no field shares a line
with a brace. -/
theorem readParameters_reads_layout (struct : ParameterStruct) (layout : List (List Token))
    (flat : layout.flatten = struct.tokens)
    (sole : ∀ line ∈ layout, hasBrace line = false → (fieldsIn line).length ≤ 1)
    (header : Header) (earlier own later : List (List Char))
    (lines : header.lines = earlier ++ (own ++ later))
    (unmentioned : ∀ text ∈ earlier, Text.contains struct.name.text.toList text = false)
    (written : Written own layout) (function : String) :
    readParameters header function struct.name.text =
        .ok ((fieldsApart layout).map PointerField.toParameter) ∧
      (readParameters header function struct.name.text =
          .ok (struct.fields.map PointerField.toParameter) ↔
        ∀ line ∈ layout, hasBrace line = true → fieldsIn line = []) := by
  have read := readParameters_of_layout flat sole lines written struct.name.identifier unmentioned
    struct.mentions_name function
  have all : fieldsIn layout.flatten = struct.fields := by rw [flat, struct.fieldsIn_tokens]
  refine ⟨read, ?_⟩
  rw [read, ← fieldsApart_eq_iff, all, Except.ok.injEq]
  constructor
  · intro same
    have length := congrArg List.length same
    rw [List.length_map, List.length_map] at length
    have sublist := fieldsApart_sublist layout
    rw [all] at sublist
    exact sublist.eq_of_length length
  · intro same
    rw [same]

namespace Init

def flags : PointerField where
  name := "flags"
  type := "int"
  spaced := by decide +kernel
  trimmed := by decide +kernel
  plain := by decide +kernel
  nonempty := by decide +kernel
  word := by decide +kernel

def count : PointerField where
  name := "count"
  type := "const long"
  spaced := by decide +kernel
  trimmed := by decide +kernel
  plain := by decide +kernel
  nonempty := by decide +kernel
  word := by decide +kernel

/-- A structure of two fields. -/
def parameters : ParameterStruct where
  name := ⟨"ze_init_params_t", by decide +kernel⟩
  fields := [flags, count]
  distinct := by decide +kernel

/-- Each field on a line of its own. -/
def apart : List (List Token) :=
  [[.typedef, .struct], [.tag parameters.name, .opening], [], [.field flags], [.field count],
    [.closing, .synonym parameters.name]]

/-- One field on the line of the opening brace. -/
def opened : List (List Token) :=
  [[.typedef, .struct, .tag parameters.name, .opening, .field flags], [.field count],
    [.closing, .synonym parameters.name]]

/-- Both fields on one line. -/
def joined : List (List Token) :=
  [[.typedef, .struct, .tag parameters.name, .opening], [.field flags, .field count],
    [.closing, .synonym parameters.name]]

/-- A header of given lines. -/
def header (lines : List String) : Header :=
  ⟨"ze_api.h", lines.map String.toList⟩

def apartHeader : Header :=
  header ["// ze_api", "typedef struct", "_ze_init_params_t\x7b", "", "  int* pflags;",
    "  const  long* pcount;", "\x7d ze_init_params_t;", "int x;"]

def openedHeader : Header :=
  header ["typedef struct _ze_init_params_t \x7b int* pflags;", " const long* pcount;",
    "\x7d ze_init_params_t;"]

def joinedHeader : Header :=
  header ["typedef struct _ze_init_params_t \x7b", " int* pflags; const long* pcount;",
    "\x7d ze_init_params_t;"]

end Init

theorem readParameters_reads_layout_apart :
    readParameters Init.apartHeader "zeInit" "ze_init_params_t" =
      .ok [⟨"flags", "int"⟩, ⟨"count", "const long"⟩] := by
  have sole : ∀ line ∈ Init.apart, hasBrace line = false → (fieldsIn line).length ≤ 1 := by
    decide +kernel
  have unmentioned : ∀ text ∈ ["// ze_api".toList],
      Text.contains Init.parameters.name.text.toList text = false := by decide +kernel
  have written : Written ((Init.apartHeader.lines.drop 1).take 6) Init.apart := by decide +kernel
  exact ((readParameters_reads_layout Init.parameters Init.apart rfl sole Init.apartHeader _ _
    ["int x;".toList] rfl unmentioned written "zeInit").2).mpr (by decide +kernel)

/-- A field that shares a line with a brace is dropped, and of two fields that share a line only one
is read, with the other in its type. -/
theorem readParameters_reads_layout_shared :
    Init.opened.flatten = Init.parameters.tokens ∧ Written Init.openedHeader.lines Init.opened ∧
      readParameters Init.openedHeader "zeInit" "ze_init_params_t" = .ok [⟨"count", "const long"⟩] ∧
      Init.joined.flatten = Init.parameters.tokens ∧ Written Init.joinedHeader.lines Init.joined ∧
      readParameters Init.joinedHeader "zeInit" "ze_init_params_t" =
        .ok [⟨"count", "int* pflags; const long"⟩] :=
  ⟨rfl, by decide +kernel, toOption_eq_some_iff.mp (by decide +kernel), rfl, by decide +kernel,
    toOption_eq_some_iff.mp (by decide +kernel)⟩

end ApiTrace
