import ApiTrace.Proofs.Header.Body
import ApiTrace.Proofs.Header.Grammar
import ApiTrace.Proofs.Text.Words

/-!
# Lines by their words

A line is given by its words, where a brace is a word of its own: blanks around them do not matter.
The words say which braces stand in the line and in which order, which names it mentions, and
whether it may hold a comment or a directive. A body is then what stands between the line with its
opening brace and the next line with a closing one.
-/

namespace ApiTrace

namespace Text

/-! ## Words and braces -/

/-- Whether `c` is a brace. -/
def isBrace (c : Char) : Bool :=
  c == '\x7b' || c == '\x7d'

/-- A text with blanks around its braces. -/
def setApart (text : List Char) : List Char :=
  text.flatMap fun c => if isBrace c then [' ', c, ' '] else [c]

/-- The words of a text, where a brace is a word of its own. -/
def lexemes (text : List Char) : List (List Char) :=
  words (setApart text)

variable {text pattern : List Char} {c : Char}

theorem isBrace_of_isWordChar (inWord : isWordChar c = true) : isBrace c = false := by
  rw [isBrace, Bool.or_eq_false_iff, beq_eq_false_iff_ne, beq_eq_false_iff_ne]
  constructor
  all_goals
    rintro rfl
    exact absurd inWord (by decide)

theorem setApart_append (first second : List Char) :
    setApart (first ++ second) = setApart first ++ setApart second :=
  List.flatMap_append

theorem setApart_eq_self (plain : ∀ c ∈ text, isBrace c = false) : setApart text = text := by
  induction text with
  | nil => rfl
  | cons c text ih =>
      obtain ⟨first, rest⟩ := List.forall_mem_cons.mp plain
      rw [setApart, List.flatMap_cons, first, ← setApart, ih rest]
      rfl

theorem setApart_cons_of_brace (brace : isBrace c = true) (text : List Char) :
    setApart (c :: text) = ' ' :: c :: ' ' :: setApart text := by
  rw [setApart, List.flatMap_cons, brace]
  rfl

/-- The blanks that are put in are the only difference. -/
theorem filter_setApart {p : Char → Bool} (blank : p ' ' = false) (text : List Char) :
    (setApart text).filter p = text.filter p := by
  induction text with
  | nil => rfl
  | cons c text ih =>
      rw [setApart, List.flatMap_cons, ← setApart, List.filter_append, ih]
      cases isBrace c with
      | true => cases holds : p c <;> simp [blank, holds]
      | false => cases holds : p c <;> simp [holds]

/-- The words hold what is no blank, in order. -/
theorem filter_flatten_lexemes {p : Char → Bool} (solid : ∀ c, p c = true → isBlank c = false)
    (text : List Char) : (lexemes text).flatten.filter p = text.filter p := by
  have space : p ' ' = false := by
    rw [← Bool.not_eq_true]
    exact fun holds => absurd (solid ' ' holds) (by decide)
  rw [lexemes, flatten_words, List.filter_filter, ← filter_setApart space text]
  apply List.filter_congr
  intro c _
  cases holds : p c with
  | false => rfl
  | true => rw [solid c holds]; rfl

theorem lexemes_eq_words (plain : ∀ c ∈ text, isBrace c = false) : lexemes text = words text := by
  rw [lexemes, setApart_eq_self plain]

theorem mem_iff_exists_lexeme (solid : isBlank c = false) :
    c ∈ text ↔ ∃ word ∈ lexemes text, c ∈ word := by
  have same := filter_flatten_lexemes (p := (· == c)) (fun d same => eq_of_beq same ▸ solid) text
  have among : ∀ part : List Char, c ∈ part ↔ c ∈ part.filter (· == c) := fun part => by simp
  rw [among text, ← same, ← among, List.mem_flatten]

/-- Blanks around braces matter to no pattern without blanks and braces. -/
theorem contains_setApart (nonempty : pattern ≠ []) (solid : ∀ c ∈ pattern, isBlank c = false)
    (plain : ∀ c ∈ pattern, isBrace c = false) (text : List Char) :
    contains pattern (setApart text) = contains pattern text := by
  have empty := contains_nil_of_ne_nil nonempty
  have space : ' ' ∉ pattern := fun member => absurd (solid ' ' member) (by decide)
  induction text using cut_induction isBrace with
  | solid text free => rw [setApart_eq_self free]
  | cut start c rest free brace ih =>
      have absent : c ∉ pattern := by
        intro member
        rw [plain c member] at brace
        contradiction
      have split : setApart (start ++ c :: rest) =
          start ++ ' ' :: ([] ++ c :: ([] ++ ' ' :: setApart rest)) := by
        rw [setApart_append, setApart_eq_self free, setApart_cons_of_brace brace]
        rfl
      rw [split, contains_append_cons space, contains_append_cons absent,
        contains_append_cons space, empty, ih, Bool.false_or, Bool.false_or,
        contains_append_cons absent]

/-- An identifier occurs in a text exactly if it occurs in one of the words. -/
theorem contains_iff_exists_lexeme (identifier : isIdentifier pattern = true) :
    contains pattern text = true ↔ ∃ word ∈ lexemes text, contains pattern word = true := by
  have solid := isBlank_of_mem_identifier identifier
  have plain : ∀ c ∈ pattern, isBrace c = false := fun c member =>
    isBrace_of_isWordChar (forall_isWordChar_of_isIdentifier identifier c member)
  rw [← contains_setApart (ne_nil_of_isIdentifier identifier) solid plain,
    contains_iff_exists_word (ne_nil_of_isIdentifier identifier) solid, lexemes]

end Text

namespace Header

variable {header : Header} {before inner after : List (List Char)}
  {hit opens closes : List Char} {start : Nat}
  {p : List Char → Bool}

/-! ## Braces of a line -/

/-- A line closes the body that it opens if it has a closing brace somewhere behind an opening one.
-/
theorem closesOnOpeningLine_iff {line : List Char} :
    closesOnOpeningLine line = true ↔ ['\x7b', '\x7d'].Sublist line := by
  induction line with
  | nil => simp [closesOnOpeningLine]
  | cons c line ih =>
      rw [closesOnOpeningLine]
      by_cases opening : c = '\x7b'
      · subst opening
        rw [List.dropWhile_cons_of_neg (by decide), List.cons_sublist_cons, List.singleton_sublist]
        simp
      · rw [List.dropWhile_cons_of_pos (by simpa using opening), ← closesOnOpeningLine, ih,
          List.sublist_cons_iff]
        simp [Ne.symm opening]

/-! ## Bodies between lines -/

theorem findFrom?_of_split (lines : header.lines = before ++ hit :: after)
    (reached : start ≤ before.length)
    (missing : ∀ text ∈ before.drop start, p text = false) (holds : p hit = true) :
    header.findFrom? start p = some before.length := by
  have none : (before.drop start).findIdx? p = none := List.findIdx?_eq_none_iff.mpr missing
  rw [findFrom?, lines, List.drop_append_of_le_length reached, List.findIdx?_append, none,
    List.findIdx?_cons, if_pos holds, List.length_drop]
  simp only [Option.map_some, Option.none_or, Nat.zero_add]
  rw [Nat.add_sub_cancel' reached]

/-- The lines of a header around the line that opens the body of a name: the first mention of the
name comes no later, and no line in between has an opening brace. -/
structure OpensBody (header : Header) (name : String) (before : List (List Char))
    (opens : List Char)
    (behind : List (List Char)) : Prop where
  lines : header.lines = before ++ opens :: behind
  mentioned : ∃ mention ≤ before.length, header.find? name.toList = some mention ∧
    ∀ text ∈ before.drop mention, '\x7b' ∉ text
  opening : '\x7b' ∈ opens

section Body

variable {name : String} {behind : List (List Char)}

/-- The opening brace stands at or behind the first mention, and it is the first one from there on.
-/
theorem opensBody_of_mention {earlier : List (List Char)}
    (lines : header.lines = earlier ++ (before ++ opens :: behind))
    (unmentioned : ∀ text ∈ earlier, Text.contains name.toList text = false)
    (mentioned : ∃ text ∈ before ++ [opens], Text.contains name.toList text = true)
    (unopened : ∀ text ∈ before, '\x7b' ∉ text) (opening : '\x7b' ∈ opens) :
    header.OpensBody name (earlier ++ before) opens behind := by
  refine ⟨by rw [lines, List.append_assoc], ?_, opening⟩
  cases found : (before ++ [opens]).findIdx? (Text.contains name.toList) with
  | none =>
      obtain ⟨text, member, holds⟩ := mentioned
      rw [List.findIdx?_eq_none_iff.mp found text member] at holds
      contradiction
  | some place =>
      have inside := (List.findIdx?_eq_some_iff_getElem.mp found).1
      have split : header.lines = earlier ++ ((before ++ [opens]) ++ behind) := by rw [lines]; simp
      have first : header.find? name.toList = some (place + earlier.length) := by
        rw [find?, split, List.findIdx?_append, List.findIdx?_eq_none_iff.mpr unmentioned,
          List.findIdx?_append, found]
        rfl
      rw [List.length_append, List.length_singleton] at inside
      refine ⟨place + earlier.length, by rw [List.length_append]; omega, first,
        fun text member => ?_⟩
      apply unopened
      rw [List.drop_append, List.drop_eq_nil_of_le (by omega), List.nil_append] at member
      exact List.mem_of_mem_drop member

theorem OpensBody.exists_mention (opened : header.OpensBody name before opens behind) :
    ∃ mention, header.find? name.toList = some mention ∧
      header.findFrom? mention (fun text => text.contains '\x7b') = some before.length := by
  obtain ⟨mention, reached, mentioned, unopened⟩ := opened.mentioned
  refine ⟨mention, mentioned, findFrom?_of_split opened.lines reached ?_ ?_⟩
  · intro text member
    rw [← Bool.not_eq_true, List.contains_iff_mem]
    exact unopened text member
  · exact List.contains_iff_mem.mpr opened.opening

/-- A body is empty if its opening line closes it. -/
theorem OpensBody.body_of_closing (opened : header.OpensBody name before opens behind)
    (closing : closesOnOpeningLine opens = true) :
    header.body name = .ok ⟨before.length + 1, before.length + 1⟩ := by
  obtain ⟨mention, mentioned, found⟩ := opened.exists_mention
  have line : header.lines[before.length]? = some opens := by simp [opened.lines]
  rw [body, mentioned]
  dsimp only
  rw [bodyFrom, found]
  dsimp only
  rw [line, Option.map_some, closing]
  rfl

/-- A body lies between the line that opens it and the next line with a closing brace. -/
theorem OpensBody.body_of_later
    (opened : header.OpensBody name before opens (inner ++ closes :: after))
    (later : closesOnOpeningLine opens = false) (unclosed : ∀ text ∈ inner, '\x7d' ∉ text)
    (closing : '\x7d' ∈ closes) :
    header.body name = .ok ⟨before.length + 1, before.length + 1 + inner.length⟩ := by
  obtain ⟨mention, mentioned, found⟩ := opened.exists_mention
  have line : header.lines[before.length]? = some opens := by simp [opened.lines]
  have closed : header.findFrom? (before.length + 1) (fun text => text.contains '\x7d') =
      some (before.length + 1 + inner.length) := by
    have split : header.lines = (before ++ opens :: inner) ++ closes :: after := by
      rw [opened.lines, List.append_assoc, List.cons_append]
    have length : (before ++ opens :: inner).length = before.length + 1 + inner.length := by
      rw [List.length_append, List.length_cons]
      omega
    rw [← length]
    apply findFrom?_of_split split
    · omega
    · intro text member
      rw [← Bool.not_eq_true, List.contains_iff_mem]
      apply unclosed
      simpa using member
    · exact List.contains_iff_mem.mpr closing
  rw [body, mentioned]
  dsimp only
  rw [bodyFrom, found]
  dsimp only
  rw [line, Option.map_some, later, closed]
  rfl

end Body

theorem map_text_slice (lines : header.lines = before ++ (inner ++ after)) :
    (header.slice ⟨before.length, before.length + inner.length⟩).map NumberedLine.text = inner := by
  rw [slice, List.map_map, lines, List.drop_left, Nat.add_sub_cancel_left, List.take_left]
  exact List.zipIdx_map_fst _ inner

/-! ## Lines without comments and directives -/

/-- Lines without slashes have no comments. -/
theorem plainLines_of_free {lines : List NumberedLine} (free : ∀ line ∈ lines, '/' ∉ line.text) :
    plainLines .code lines = lines.map fun line => ⟨line.number, Text.trim line.text⟩ := by
  induction lines with
  | nil => rfl
  | cons line lines ih =>
      obtain ⟨first, rest⟩ := List.forall_mem_cons.mp free
      have read := plainLines_ofOpen_cons false line lines
      rw [stripComments_of_free (commentFree_of_not_mem first)] at read
      rw [List.map_cons, ← ih rest]
      exact read

/-- Of lines without slashes and number signs, all are kept but the blank ones. -/
theorem guardedLines_of_free {span : Span}
    (free : ∀ line ∈ header.slice span, '/' ∉ line.text ∧ '#' ∉ line.text) :
    header.guardedLines span = .ok ((header.slice span).filterMap fun line =>
      keptUnder none ⟨line.number, Text.trim line.text⟩) := by
  rw [guardedLines_eq_ok_iff, plainLines_of_free fun line member => (free line member).1]
  have plain : ∀ line ∈ (header.slice span).map fun line =>
      (⟨line.number, Text.trim line.text⟩ : NumberedLine), Directive.ofLine? line.text = none := by
    intro line member
    obtain ⟨written, among, rfl⟩ := List.mem_map.mp member
    refine Directive.ofLine?_eq_none fun rest sign => (free written among).2 ?_
    have first : '#' ∈ Text.trim written.text := by
      rw [show Text.trim written.text = '#' :: rest from sign]
      exact List.mem_cons_self
    exact (Text.trim_isInfix written.text).subset first
  have kept := keepPlain_append_of_plain .outside plain []
  rw [List.append_nil] at kept
  rw [kept, keepPlain, Option.map_some, List.append_nil, List.filterMap_map]
  rfl

end Header

end ApiTrace
