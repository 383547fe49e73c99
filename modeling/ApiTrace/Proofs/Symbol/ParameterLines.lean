import ApiTrace.Proofs.Header.Layout
import ApiTrace.Proofs.Sequence
import ApiTrace.Symbol.Parameters

/-!
# Lines of a parameter structure

The definition of a parameter structure is a sequence of tokens, its fields among them. A line is
written by its tokens if they are its words, so any blanks may stand between them. The braces of a
line are those among its tokens, and a body with at most one field on each line is read as its
fields, in order.
-/

namespace ApiTrace

/-! ## Tokens -/

/-- The name of a parameter structure. -/
structure StructName where
  text : String
  identifier : Text.isIdentifier text.toList = true

/-- A parameter that is written as a field `type* pname;`. -/
structure PointerField extends Parameter where
  /-- One blank stands between the words of the type. -/
  spaced : [' '].intercalate (Text.words (type.toList ++ ['*'])) = type.toList ++ ['*']
  trimmed : Text.trimEnd type.toList = type.toList
  /-- The type starts no comment, no directive and no body. -/
  plain : ∀ c ∈ type.toList, c ≠ '/' ∧ c ≠ '#' ∧ Text.isBrace c = false
  nonempty : name.toList ≠ []
  word : ∀ c ∈ name.toList, Text.isWordChar c = true

/-- A field as it is written. -/
def PointerField.text (field : PointerField) : List Char :=
  field.type.toList ++ '*' :: ' ' :: 'p' :: (field.name.toList ++ [';'])

/-- A part of the definition of a parameter structure. -/
inductive Token where
  | typedef
  | struct
  /-- The name of the structure behind `struct`. -/
  | tag (name : StructName)
  | opening
  | field (pointer : PointerField)
  | closing
  /-- The name of the structure behind its body. -/
  | synonym (name : StructName)

namespace Token

def text : Token → List Char
  | .typedef => "typedef".toList
  | .struct => "struct".toList
  | .tag name => '_' :: name.text.toList
  | .opening => ['\x7b']
  | .field pointer => pointer.text
  | .closing => ['\x7d']
  | .synonym name => name.text.toList ++ [';']

/-- The words of a token. -/
def lexemes : Token → List (List Char)
  | .field pointer => Text.words pointer.text
  | token => [token.text]

/-- The brace that a token is. -/
def brace? : Token → Option Char
  | .opening => some '\x7b'
  | .closing => some '\x7d'
  | _ => none

/-- The field that a token is. -/
def field? : Token → Option PointerField
  | .field pointer => some pointer
  | _ => none

end Token

/-- The words of a line by its tokens. -/
def spelling (tokens : List Token) : List (List Char) :=
  tokens.flatMap Token.lexemes

/-- Lines consist of the tokens that a layout puts on them, with any blanks between these. -/
def Written (lines : List (List Char)) (layout : List (List Token)) : Prop :=
  lines.map Text.lexemes = layout.map spelling

instance (lines : List (List Char)) (layout : List (List Token)) :
    Decidable (Written lines layout) :=
  inferInstanceAs (Decidable (lines.map Text.lexemes = layout.map spelling))

/-- The fields among tokens. -/
def fieldsIn (tokens : List Token) : List PointerField :=
  tokens.filterMap Token.field?

theorem fieldsIn_append (first second : List Token) :
    fieldsIn (first ++ second) = fieldsIn first ++ fieldsIn second :=
  List.filterMap_append

theorem fieldsIn_flatten (layout : List (List Token)) :
    fieldsIn layout.flatten = layout.flatMap fieldsIn := by
  induction layout with
  | nil => rfl
  | cons line layout ih => rw [List.flatten_cons, fieldsIn_append, ih, List.flatMap_cons]

theorem fieldsIn_map_field (fields : List PointerField) :
    fieldsIn (fields.map .field) = fields := by
  rw [fieldsIn, List.filterMap_map]
  exact List.filterMap_some

/-! ## Fields on their own -/

section Field

variable {field : PointerField} {line : List Char}

theorem PointerField.words_text (field : PointerField) :
    Text.words field.text =
      Text.words (field.type.toList ++ ['*']) ++ ['p' :: (field.name.toList ++ [';'])] := by
  have split : field.text = (field.type.toList ++ ['*']) ++ ' ' :: 'p' ::
      (field.name.toList ++ [';']) := by
    simp [text]
  have solid : ∀ c ∈ 'p' :: (field.name.toList ++ [';']), Text.isBlank c = false := by
    intro c member
    rcases List.mem_cons.mp member with rfl | member
    · decide
    · rcases List.mem_append.mp member with inName | last
      · exact Text.isBlank_of_isWordChar (field.word c inName)
      · rw [List.mem_singleton.mp last]
        decide
  rw [split, Text.words_append_cons (by decide), Text.words_of_solid (List.cons_ne_nil _ _) solid]

/-- A field starts no comment, no directive and no body. -/
theorem PointerField.plain_text (field : PointerField) :
    ∀ c ∈ field.text, c ≠ '/' ∧ c ≠ '#' ∧ Text.isBrace c = false := by
  have name : ∀ c ∈ field.name.toList, c ≠ '/' ∧ c ≠ '#' ∧ Text.isBrace c = false := by
    intro c member
    refine ⟨?_, ?_, Text.isBrace_of_isWordChar (field.word c member)⟩
    all_goals
      rintro rfl
      exact absurd (field.word _ member) (by decide)
  simp only [text, List.forall_mem_append, List.forall_mem_cons]
  exact ⟨field.plain, by decide, by decide, by decide, name, by decide, nofun⟩

theorem PointerField.words_ne_nil (field : PointerField) : Text.words field.text ≠ [] := by
  rw [field.words_text]
  exact List.append_ne_nil_of_right_ne_nil _ (List.cons_ne_nil _ _)

/-- A line with the words of a field is read as the field. -/
theorem PointerField.parameterField_eq (words : Text.words line = Text.words field.text) :
    Declaration.parameterField line = .ok (field.name, field.type) := by
  have star : Text.words (field.type.toList ++ ['*']) ≠ [] := by
    obtain ⟨word, among, _⟩ := Text.exists_word_of_mem (c := '*')
      (List.mem_append_right field.type.toList List.mem_cons_self) (by decide)
    exact List.ne_nil_of_mem among
  have unended : Text.dropEndWhile (· == ';') ('p' :: (field.name.toList ++ [';'])) =
      'p' :: field.name.toList := by
    rw [← List.cons_append]
    refine Text.dropEndWhile_append_eq (fun c last => ?_) (by simp)
    rw [List.getLast?_cons_of_ne_nil field.nonempty] at last
    have inWord := field.word c (List.mem_of_mem_getLast? last)
    rw [beq_eq_false_iff_ne]
    rintro rfl
    exact absurd inWord (by decide)
  have many : ¬(Text.words (field.type.toList ++ ['*']) ++
      ['p' :: (field.name.toList ++ [';'])]).length < 2 := by
    have some := List.length_pos_iff.mpr star
    rw [List.length_append, List.length_singleton]
    omega
  obtain ⟨c, name, split⟩ := List.exists_cons_of_ne_nil field.nonempty
  have same : String.ofList (c :: name) = field.name := by rw [← split, String.ofList_toList]
  rw [Declaration.parameterField, words, field.words_text, List.getLast?_concat]
  dsimp only
  rw [if_neg many, unended, split, List.dropLast_concat, field.spaced, Text.dropEnd?_append]
  dsimp only
  rw [field.trimmed, String.ofList_toList]
  exact congrArg (fun name => Except.ok (name, field.type)) same

end Field

/-! ## Lines of tokens -/

section Line

variable {line : List Char} {tokens : List Token} {name : StructName}

theorem StructName.word (name : StructName) : ∀ c ∈ name.text.toList, Text.isWordChar c = true :=
  Text.forall_isWordChar_of_isIdentifier name.identifier

/-- The braces of a token are the token itself. -/
theorem Token.filter_flatten_lexemes (token : Token) :
    token.lexemes.flatten.filter Text.isBrace = token.brace?.toList := by
  have free {part : List Char} (plain : ∀ c ∈ part, Text.isBrace c = false) :
      part.filter Text.isBrace = [] :=
    List.filter_eq_nil_iff.mpr fun c member => Bool.not_eq_true _ ▸ plain c member
  have named (name : StructName) : name.text.toList.filter Text.isBrace = [] :=
    free fun c member => Text.isBrace_of_isWordChar (name.word c member)
  cases token with
  | typedef => decide
  | struct => decide
  | tag name =>
      rw [show (tag name).lexemes = ['_' :: name.text.toList] from rfl, List.flatten_singleton,
        List.filter_cons_of_neg (by decide), named]
      rfl
  | opening => decide
  | field pointer =>
      rw [lexemes, Text.flatten_words]
      exact free fun c member => (pointer.plain_text c (List.mem_filter.mp member).1).2.2
  | closing => decide
  | synonym name =>
      rw [show (synonym name).lexemes = [name.text.toList ++ [';']] from rfl,
        List.flatten_singleton, List.filter_append, named]
      rfl

/-- The braces of a line are those among its tokens. -/
theorem filter_isBrace (spelled : Text.lexemes line = spelling tokens) :
    line.filter Text.isBrace = tokens.filterMap Token.brace? := by
  have solid : ∀ c, Text.isBrace c = true → Text.isBlank c = false := by
    intro c brace
    rw [Text.isBrace, Bool.or_eq_true, beq_iff_eq, beq_iff_eq] at brace
    rcases brace with rfl | rfl <;> decide
  rw [← Text.filter_flatten_lexemes solid, spelled]
  clear spelled
  induction tokens with
  | nil => rfl
  | cons token tokens ih =>
      rw [spelling, List.flatMap_cons, List.flatten_append, List.filter_append,
        token.filter_flatten_lexemes, ← spelling, ih, List.filterMap_cons]
      cases token.brace? <;> rfl

theorem Token.brace?_eq_some_iff {token : Token} {brace : Char} : token.brace? = some brace ↔
    token = .opening ∧ brace = '\x7b' ∨ token = .closing ∧ brace = '\x7d' := by
  cases token <;> simp [brace?, eq_comm]

/-- A brace stands in a line exactly if it is among the tokens. -/
theorem mem_iff_of_isBrace {brace : Char} (spelled : Text.lexemes line = spelling tokens)
    (kept : Text.isBrace brace = true) :
    brace ∈ line ↔ ∃ token ∈ tokens, token.brace? = some brace := by
  have within : brace ∈ line ↔ brace ∈ line.filter Text.isBrace := by simp [kept]
  rw [within, filter_isBrace spelled, List.mem_filterMap]

theorem opening_mem_iff (spelled : Text.lexemes line = spelling tokens) :
    '\x7b' ∈ line ↔ .opening ∈ tokens := by
  rw [mem_iff_of_isBrace spelled rfl]
  simp [Token.brace?_eq_some_iff]

theorem closing_mem_iff (spelled : Text.lexemes line = spelling tokens) :
    '\x7d' ∈ line ↔ .closing ∈ tokens := by
  rw [mem_iff_of_isBrace spelled rfl]
  simp [Token.brace?_eq_some_iff]

/-- A line closes its body if a closing brace stands behind an opening one. -/
theorem closesOnOpeningLine_of_tokens (spelled : Text.lexemes line = spelling tokens)
    (braces : [Token.opening, .closing].Sublist tokens) :
    Header.closesOnOpeningLine line = true := by
  have within : ['\x7b', '\x7d'].Sublist (line.filter Text.isBrace) := by
    rw [filter_isBrace spelled]
    exact braces.filterMap Token.brace?
  exact Header.closesOnOpeningLine_iff.mpr (within.trans List.filter_sublist)

theorem closesOnOpeningLine_eq_false (spelled : Text.lexemes line = spelling tokens)
    (unclosed : .closing ∉ tokens) : Header.closesOnOpeningLine line = false := by
  rw [← Bool.not_eq_true, Header.closesOnOpeningLine_iff]
  exact fun braces => unclosed ((closing_mem_iff spelled).mp (braces.subset (by simp)))

end Line

/-! ## Written lines -/

section Writing

variable {lines : List (List Char)} {layout : List (List Token)} {tokens : List Token}

theorem Written.exists_append {first second : List (List Token)}
    (written : Written lines (first ++ second)) :
    ∃ left right, lines = left ++ right ∧ Written left first ∧ Written right second := by
  rw [Written, List.map_append, List.map_eq_append_iff] at written
  exact written

theorem Written.exists_cons (written : Written lines (tokens :: layout)) :
    ∃ line rest, lines = line :: rest ∧ Text.lexemes line = spelling tokens ∧
      Written rest layout := by
  rw [Written, List.map_cons, List.map_eq_cons_iff] at written
  exact written

theorem Written.exists_tokens {line : List Char} (written : Written lines layout)
    (member : line ∈ lines) :
    ∃ tokens ∈ layout, Text.lexemes line = spelling tokens := by
  have spelled : Text.lexemes line ∈ layout.map spelling := written ▸ List.mem_map_of_mem member
  obtain ⟨tokens, among, same⟩ := List.mem_map.mp spelled
  exact ⟨tokens, among, same.symm⟩

theorem Written.exists_line (written : Written lines layout) (among : tokens ∈ layout) :
    ∃ line ∈ lines, Text.lexemes line = spelling tokens := by
  have spelled : spelling tokens ∈ lines.map Text.lexemes := written ▸ List.mem_map_of_mem among
  exact List.mem_map.mp spelled

end Writing

/-! ## Lines of fields -/

theorem spelling_field (pointer : PointerField) :
    spelling [.field pointer] = Text.words pointer.text :=
  List.flatMap_singleton ..

/-- A line of one field, or of none. -/
def FieldLine (tokens : List Token) : Prop :=
  tokens = [] ∨ ∃ pointer, tokens = [.field pointer]

section Fields

variable {line : List Char} {tokens : List Token}

theorem FieldLine.words_eq (single : FieldLine tokens)
    (spelled : Text.lexemes line = spelling tokens) :
    Text.words line = spelling tokens := by
  have braces : line.filter Text.isBrace = [] := by
    rw [filter_isBrace spelled]
    rcases single with rfl | ⟨pointer, rfl⟩ <;> rfl
  rw [← spelled, Text.lexemes_eq_words]
  intro c member
  exact (Bool.not_eq_true _).mp (List.filter_eq_nil_iff.mp braces c member)

/-- A line of one field or of none starts no comment and no directive. -/
theorem FieldLine.free (single : FieldLine tokens) (spelled : Text.lexemes line = spelling tokens) :
    '/' ∉ line ∧ '#' ∉ line := by
  have plain : ∀ word ∈ spelling tokens, ∀ c ∈ word, c ≠ '/' ∧ c ≠ '#' := by
    intro word among c inWord
    rcases single with rfl | ⟨pointer, rfl⟩
    · contradiction
    · rw [spelling, List.flatMap_singleton] at among
      have inText := Text.subset_of_mem_words among inWord
      exact ⟨(pointer.plain_text c inText).1, (pointer.plain_text c inText).2.1⟩
  rw [Text.mem_iff_exists_lexeme (by decide), Text.mem_iff_exists_lexeme (by decide), spelled]
  constructor
  · rintro ⟨word, among, inWord⟩
    exact (plain word among _ inWord).1 rfl
  · rintro ⟨word, among, inWord⟩
    exact (plain word among _ inWord).2 rfl

/-- The lines that are kept are read as the fields on them. -/
theorem forall₂_kept {lines : List NumberedLine} {layout : List (List Token)}
    (written : Written (lines.map NumberedLine.text) layout)
    (single : ∀ tokens ∈ layout, FieldLine tokens) :
    List.Forall₂ (fun line (field : PointerField) =>
        Declaration.parameterField line.text = .ok (field.name, field.type))
      (lines.filterMap fun line => Header.keptUnder none ⟨line.number, Text.trim line.text⟩)
      (layout.flatMap fieldsIn) := by
  induction layout generalizing lines with
  | nil =>
      rw [Written, List.map_nil, List.map_eq_nil_iff, List.map_eq_nil_iff] at written
      subst written
      exact .nil
  | cons tokens layout ih =>
      rw [Written, List.map_map, List.map_cons, List.map_eq_cons_iff] at written
      obtain ⟨line, rest, rfl, spelled, written⟩ := written
      obtain ⟨first, later⟩ := List.forall_mem_cons.mp single
      have read := ih (by rw [Written, List.map_map, written]) later
      have words := first.words_eq spelled
      have free := first.free spelled
      rw [List.flatMap_cons]
      rcases first with rfl | ⟨pointer, rfl⟩
      · have empty : Text.trim line.text = [] := Text.trim_eq_nil_iff.mpr words
        rw [List.filterMap_cons_none]
        · exact read
        · rw [empty]
          rfl
      · rw [spelling_field] at words
        have solid : Text.trim line.text ≠ [] := by
          rw [Ne, Text.trim_eq_nil_iff, words]
          exact pointer.words_ne_nil
        have unsigned : ∀ text, Text.trim line.text ≠ '#' :: text := by
          intro text sign
          exact free.2 ((Text.trim_isInfix line.text).subset (sign ▸ List.mem_cons_self))
        have kept := Header.keptUnder_eq_some ⟨line.number, Text.trim line.text⟩ none solid unsigned
        simp only [List.filterMap_cons, kept]
        exact .cons (pointer.parameterField_eq (by rw [Text.words_trim, words])) read

variable {file function : String} {before : List Parameter}

/-- Fields with fresh names are appended in order. -/
theorem foldlM_addParameter {lines : List GuardedLine} {fields : List PointerField}
    (read : List.Forall₂ (fun line (field : PointerField) =>
      Declaration.parameterField line.text = .ok (field.name, field.type)) lines fields)
    (fresh : ((before ++ fields.map PointerField.toParameter).map Parameter.name).Nodup) :
    lines.foldlM (addParameter file function) before =
      .ok (before ++ fields.map PointerField.toParameter) := by
  induction read generalizing before with
  | nil =>
      rw [List.map_nil, List.append_nil]
      rfl
  | @cons line field lines fields first read ih =>
      have absent : ¬(before.any fun parameter => parameter.name = field.name) = true := by
        rw [List.any_eq_true]
        rintro ⟨parameter, member, same⟩
        rw [List.map_append, List.nodup_append] at fresh
        exact fresh.2.2 _ (List.mem_map_of_mem member) _ (by simp) (of_decide_eq_true same)
      have added : addParameter file function before line =
          .ok (before ++ [field.toParameter]) := by
        rw [addParameter, first]
        exact if_neg absent
      rw [List.foldlM_cons, added, ok_bind, ih]
      · simp
      · simpa using fresh

/-- A body with at most one field on each line is read as its fields. -/
theorem readParameters_of_body {header : Header} {struct : String} {span : Span}
    {layout : List (List Token)}
    (found : header.body struct = .ok span)
    (written : Written ((header.slice span).map NumberedLine.text) layout)
    (single : ∀ tokens ∈ layout, FieldLine tokens)
    (distinct : ((layout.flatMap fieldsIn).map fun field => field.name).Nodup) (function : String) :
    readParameters header function struct =
      .ok ((layout.flatMap fieldsIn).map PointerField.toParameter) := by
  have free : ∀ line ∈ header.slice span, '/' ∉ line.text ∧ '#' ∉ line.text := by
    intro line member
    obtain ⟨tokens, among, spelled⟩ := written.exists_tokens (List.mem_map_of_mem member)
    exact (single tokens among).free spelled
  rw [readParameters, Header.guardedBody, found, ok_bind, Header.guardedLines_of_free free, ok_bind]
  rw [foldlM_addParameter (forall₂_kept written single), List.nil_append]
  rw [List.nil_append, List.map_map]
  exact distinct

end Fields

end ApiTrace
