import ApiTrace.Proofs.Header.Comment
import ApiTrace.Proofs.Sequence
import ApiTrace.Header.Conditional

/-!
# Comments behind lines

A line comment that is put behind a line leaves the code of the line as it was, up to blanks, and so
it leaves what is kept of any stretch of lines. The exception is a line on which the reader takes a
block comment to be open: the text behind it must not end that comment. Only the places of bodies
depend on the text of comments, because braces and names are looked for in whole lines.
-/

namespace ApiTrace

namespace Text

variable {pattern text more before after : List Char}

/-- A pattern that is found in a longer text and fits into the text is found in it. -/
theorem exists_append_of_splitOnce?_append
    (cut : splitOnce? pattern (text ++ more) = some (before, after))
    (short : before.length + pattern.length ≤ text.length) :
    ∃ rest, text = before ++ pattern ++ rest := by
  have whole := append_of_splitOnce?_eq_some cut
  rw [← List.length_append] at short
  obtain ⟨rest, split⟩ :=
    List.prefix_of_prefix_length_le ⟨after, whole.symm⟩ (List.prefix_append text more) short
  exact ⟨rest, split.symm⟩

/-- A cut that is only found when the text goes on does not lie within the text. -/
theorem length_lt_of_splitOnce?_append (uncut : splitOnce? pattern text = none)
    (cut : splitOnce? pattern (text ++ more) = some (before, after)) :
    text.length < before.length + pattern.length := by
  rw [← Nat.not_le]
  intro short
  obtain ⟨rest, split⟩ := exists_append_of_splitOnce?_append cut short
  rw [splitOnce?_eq_none_iff, ← Bool.not_eq_true, contains_iff_isInfix] at uncut
  exact uncut ⟨before, rest, split.symm⟩

/-- A cut stays where it is when the text goes on. -/
theorem splitOnce?_append_right (cut : splitOnce? pattern text = some (before, after))
    (more : List Char) : splitOnce? pattern (text ++ more) = some (before, after ++ more) := by
  have split := append_of_splitOnce?_eq_some cut
  have whole : text ++ more = before ++ pattern ++ (after ++ more) := by
    rw [← List.append_assoc, ← split]
  cases found : splitOnce? pattern (text ++ more) with
  | none =>
      rw [splitOnce?_eq_none_iff, ← Bool.not_eq_true, contains_iff_isInfix] at found
      exact absurd ⟨before, after ++ more, whole.symm⟩ found
  | some parts =>
      obtain ⟨first, last⟩ := parts
      have early : first.length ≤ before.length := length_le_of_splitOnce? found whole
      have fits : first.length + pattern.length ≤ text.length := by
        rw [split, List.length_append, List.length_append]
        omega
      obtain ⟨rest, again⟩ := exists_append_of_splitOnce?_append found fits
      have late : before.length ≤ first.length := length_le_of_splitOnce? cut again
      have same := whole.symm.trans (append_of_splitOnce?_eq_some found)
      rw [List.append_assoc, List.append_assoc] at same
      obtain ⟨rfl, rest⟩ := List.append_inj same (Nat.le_antisymm late early)
      rw [List.append_cancel_left rest]

/-- A cut of a longer text lies behind a place that every cut of the text lies behind. -/
theorem le_length_of_splitOnce?_append {place : Nat}
    (inside : place + pattern.length ≤ text.length + 1)
    (behind : ∀ before after, splitOnce? pattern text = some (before, after) →
      place ≤ before.length)
    (cut : splitOnce? pattern (text ++ more) = some (before, after)) : place ≤ before.length := by
  cases found : splitOnce? pattern text with
  | none =>
      have late := length_lt_of_splitOnce?_append found cut
      omega
  | some parts =>
      rw [splitOnce?_append_right found more] at cut
      cases cut
      exact behind _ _ found

/-- A pattern that starts in front of a character it lacks ends there. -/
theorem prefix_of_prefix_append_cons {c : Char} (absent : c ∉ pattern)
    (starts : pattern <+: text ++ c :: more) : pattern <+: text := by
  rcases List.prefix_or_prefix_of_prefix starts (List.prefix_append text (c :: more)) with
    within | ⟨rest, rfl⟩
  · exact within
  · have beyond := (List.prefix_append_right_inj text).mp starts
    rcases List.prefix_cons_iff.mp beyond with rfl | ⟨_, rfl, _⟩
    · exact ⟨[], by rw [List.append_nil, List.append_nil]⟩
    · exact absurd (List.mem_append_right text List.mem_cons_self) absent

theorem isPrefixOf?_append_cons {c : Char} (absent : c ∉ pattern)
    (free : contains pattern text = false) (more : List Char) :
    pattern.isPrefixOf? (text ++ c :: more) = none := by
  rw [← Option.isNone_iff_eq_none, ← Option.isSome_eq_false_iff, ← Bool.not_eq_true,
    isSome_isPrefixOf?_iff]
  intro starts
  rw [← Bool.not_eq_true, contains_iff_isInfix] at free
  exact free (prefix_of_prefix_append_cons absent starts).isInfix

/-- A pattern that a text lacks is first found behind a character that the pattern lacks. -/
theorem splitOnce?_append_cons {c : Char} (absent : c ∉ pattern)
    (free : contains pattern text = false) (more : List Char) :
    splitOnce? pattern (text ++ c :: more) =
      (splitOnce? pattern more).map fun parts => (text ++ c :: parts.1, parts.2) := by
  have notHere := isPrefixOf?_append_cons absent free more
  induction text with
  | nil =>
      rw [List.nil_append] at notHere ⊢
      rw [splitOnce?, notHere]
      rfl
  | cons d text ih =>
      have restFree := contains_eq_false_of_isInfix (List.suffix_cons d text).isInfix free
      rw [List.cons_append] at notHere ⊢
      rw [splitOnce?, notHere, ih restFree (isPrefixOf?_append_cons absent restFree more),
        Option.map_map]
      rfl

end Text

namespace Header

/-- A comment as it stands behind a line. -/
def trailing (comment : List Char) : List Char :=
  ' ' :: '/' :: '/' :: ' ' :: comment

theorem mem_trailing_iff {c : Char} {comment : List Char} (blank : c ≠ ' ') (slash : c ≠ '/') :
    c ∈ trailing comment ↔ c ∈ comment := by
  simp [trailing, blank, slash]

/-! ## The code of a line -/

section Line

variable {text before after : List Char}

theorem commentStart_append_of_line (starts : commentStart text = .line before) (more : List Char) :
    commentStart (text ++ more) = .line before := by
  obtain ⟨⟨after, line⟩, first⟩ := commentStart_eq_line_iff.mp starts
  refine commentStart_eq_line_iff.mpr ⟨⟨_, Text.splitOnce?_append_right line more⟩, ?_⟩
  intro beforeBlock rest block
  apply Text.le_length_of_splitOnce?_append _ first block
  rw [Text.append_of_splitOnce?_eq_some line]
  simp only [List.length_append, List.length_cons, List.length_nil]
  omega

theorem commentStart_append_of_block (starts : commentStart text = .block before after)
    (more : List Char) : commentStart (text ++ more) = .block before (after ++ more) := by
  obtain ⟨block, first⟩ := commentStart_eq_block_iff.mp starts
  refine commentStart_eq_block_iff.mpr ⟨Text.splitOnce?_append_right block more, ?_⟩
  intro beforeLine rest line
  apply Text.le_length_of_splitOnce?_append _ first line
  rw [Text.append_of_splitOnce?_eq_some block]
  simp only [List.length_append, List.length_cons, List.length_nil]
  omega

theorem commentStart_append_trailing (free : CommentFree text) (comment : List Char) :
    commentStart (text ++ trailing comment) = .line (text ++ [' ']) := by
  refine commentStart_eq_line_iff.mpr ⟨⟨' ' :: comment, ?_⟩, ?_⟩
  · rw [trailing, Text.splitOnce?_append_cons (by decide) free.1]
    rfl
  · intro first rest block
    rw [trailing, Text.splitOnce?_append_cons (by decide) free.2] at block
    obtain ⟨⟨gap, last⟩, found, same⟩ := Option.map_eq_some_iff.mp block
    cases same
    -- The two slashes are no start of a block comment, so that starts behind the first of them.
    cases gap with
    | nil => exact absurd (Text.append_of_splitOnce?_eq_some found) (by simp)
    | cons c gap => simp only [List.length_append, List.length_cons, List.length_nil]; omega

/-- The code of a line with a comment behind it, unless the comment ends a block comment. -/
theorem stripComments_append_trailing {inComment : Bool} {comment : List Char}
    (stays : (stripComments inComment text).2 = true → Text.contains ['*', '/'] comment = false) :
    ∃ blanks, (∀ c ∈ blanks, Text.isBlank c = true) ∧
      stripComments inComment (text ++ trailing comment) =
        ((stripComments inComment text).1 ++ blanks, (stripComments inComment text).2) := by
  fun_induction stripComments inComment text with
  | case1 text unended =>
      have behind : '/' :: '/' :: ' ' :: comment = ['/', '/'] ++ ' ' :: comment := rfl
      have uncut : Text.contains ['*', '/'] (text ++ trailing comment) = false := by
        rw [trailing, Text.contains_append_cons (by decide), Text.splitOnce?_eq_none_iff.mp unended,
          behind, Text.contains_append_cons (by decide), stays rfl]
        decide
      refine ⟨[], by simp, ?_⟩
      exact stripComments_of_unended (Text.splitOnce?_eq_none_iff.mpr uncut)
  | case2 text before after ended ih =>
      rw [stripComments_of_ended (Text.splitOnce?_append_right ended _)]
      exact ih stays
  | case3 text inComment outside absent =>
      obtain rfl := (Bool.not_eq_true _).mp outside
      have free := commentStart_eq_absent_iff.mp absent
      exact ⟨[' '], List.forall_mem_singleton.mpr (by decide),
        stripComments_of_line (commentStart_append_trailing free comment)⟩
  | case4 text inComment outside before starts =>
      obtain rfl := (Bool.not_eq_true _).mp outside
      refine ⟨[], by simp, ?_⟩
      rw [List.append_nil]
      exact stripComments_of_line (commentStart_append_of_line starts _)
  | case5 text inComment outside before after starts rest ih =>
      obtain rfl := (Bool.not_eq_true _).mp outside
      obtain ⟨blanks, blank, stripped⟩ := ih stays
      refine ⟨blanks, blank, ?_⟩
      rw [stripComments_of_block (commentStart_append_of_block starts _), stripped,
        List.append_assoc, List.cons_append]

end Line

/-! ## What is kept of lines with the same code -/

/-- Two branches that differ at most in the line that opened their block. -/
inductive Branch.Alike : Branch → Branch → Prop
  | outside : Alike .outside .outside
  | kept (guard : Guard) (first second : NumberedLine) :
      Alike (.kept guard first) (.kept guard second)
  | dropped (first second : NumberedLine) : Alike (.dropped first) (.dropped second)

/-- Alike branches follow a directive alike. -/
theorem Branch.Alike.follow {first second : Branch} (alike : first.Alike second)
    (firstLine secondLine : NumberedLine) (directive : Directive) :
    (∃ next after, first.follow firstLine directive = .ok next ∧
      second.follow secondLine directive = .ok after ∧ next.Alike after) ∨
    ∃ fault, first.follow firstLine directive = .error fault ∧
      second.follow secondLine directive = .error fault := by
  cases directive with
  | opening condition expression =>
      cases alike with
      | outside =>
          by_cases empty : expression.isEmpty
          · exact .inr ⟨_, if_pos empty, if_pos empty⟩
          · exact .inl ⟨_, _, if_neg empty, if_neg empty, .kept _ _ _⟩
      | kept guard => exact .inr ⟨_, rfl, rfl⟩
      | dropped => exact .inr ⟨_, rfl, rfl⟩
  | alternative =>
      cases alike with
      | outside => exact .inr ⟨_, rfl, rfl⟩
      | kept guard => exact .inl ⟨_, _, rfl, rfl, .dropped _ _⟩
      | dropped => exact .inr ⟨_, rfl, rfl⟩
  | elif => exact .inr ⟨_, rfl, rfl⟩
  | ending =>
      cases alike with
      | outside => exact .inr ⟨_, rfl, rfl⟩
      | kept guard => exact .inl ⟨_, _, rfl, rfl, .outside⟩
      | dropped => exact .inl ⟨_, _, rfl, rfl, .outside⟩
  | other => exact .inl ⟨_, _, rfl, rfl, alike⟩

/-- Lines with the same numbers and the same code, from a comment state on. -/
inductive SameCode : Bool → List NumberedLine → List NumberedLine → Prop
  | nil (inComment : Bool) : SameCode inComment [] []
  | cons {inComment : Bool} {first second : NumberedLine} {firsts seconds : List NumberedLine}
      (number : second.number = first.number)
      (code : Text.trim (stripComments inComment second.text).1 =
        Text.trim (stripComments inComment first.text).1)
      (state : (stripComments inComment second.text).2 = (stripComments inComment first.text).2)
      (rest : SameCode (stripComments inComment first.text).2 firsts seconds) :
      SameCode inComment (first :: firsts) (second :: seconds)

theorem SameCode.refl (inComment : Bool) (lines : List NumberedLine) :
    SameCode inComment lines lines := by
  induction lines generalizing inComment with
  | nil => exact .nil inComment
  | cons line lines ih => exact .cons rfl rfl rfl (ih _)

/-- The same is kept of lines with the same code; only the error about an open block shows a line.
-/
theorem SameCode.toOption_keepLines {inComment : Bool} {firsts seconds : List NumberedLine}
    (same : SameCode inComment firsts seconds) {first second : Branch} (alike : first.Alike second)
    (file : String) :
    (keepLines file inComment second seconds).toOption =
      (keepLines file inComment first firsts).toOption := by
  induction same generalizing first second with
  | nil inComment => cases alike <;> rfl
  | @cons inComment firstLine secondLine firsts seconds number code state _ ih =>
      rw [keepLines, keepLines, code, state, number]
      split
      · exact ih alike
      · rename_i text directive
        obtain ⟨next, after, followed, followedAlike, nextAlike⟩ | ⟨fault, failed, failedAlike⟩ :=
          alike.follow firstLine secondLine (.ofText text)
        · rw [followed, followedAlike]
          exact ih nextAlike
        · rw [failed, failedAlike]
      · cases alike with
        | outside =>
            dsimp only
            rw [toOption_map, toOption_map, ih .outside]
        | kept guard first second =>
            dsimp only [Branch.guard?]
            rw [toOption_map, toOption_map, ih (.kept guard first second)]
        | dropped first second => exact ih (.dropped first second)

/-! ## A header with a text behind one of its lines -/

/-- A header with a text behind one of its lines. -/
def extend (header : Header) (index : Nat) (more : List Char) : Header :=
  { header with lines := header.lines.modify index fun line => line ++ more }

variable {header : Header} {span : Span} {index : Nat} {more comment : List Char}

theorem getElem?_lines_extend (header : Header) (index : Nat) (more : List Char) (place : Nat) :
    (header.extend index more).lines[place]? =
      header.lines[place]?.map fun line => if index = place then line ++ more else line :=
  List.getElem?_modify _ _ _ _

/-- Whether a block comment is open behind lines that start in a comment state. -/
def openBehind (inComment : Bool) (lines : List NumberedLine) : Bool :=
  lines.foldl (fun inComment line => (stripComments inComment line.text).2) inComment

/-- The reader of a stretch takes a block comment to be open behind a line of the stretch. -/
structure OpenBehind (header : Header) (span : Span) (index : Nat) : Prop where
  start : span.start ≤ index
  stop : index < span.stop
  comment : openBehind false (header.slice ⟨span.start, index + 1⟩) = true

theorem not_openBehind (outside : openBehind false (header.slice ⟨span.start, index + 1⟩) = false) :
    ¬header.OpenBehind span index :=
  fun opened => absurd (outside.symm.trans opened.comment) Bool.false_ne_true

theorem slice_extend (within : span.start ≤ index ∧ index < span.stop) :
    (header.extend index more).slice span =
      (header.slice span).modify (index - span.start)
        fun line => ⟨line.number, line.text ++ more⟩ := by
  apply List.ext_getElem?
  intro place
  rw [getElem?_slice, List.getElem?_modify, getElem?_slice, getElem?_lines_extend]
  have shift : index - span.start = place ↔ index = span.start + place := by omega
  split
  · cases header.lines[span.start + place]? with
    | none => rfl
    | some line =>
        by_cases here : index = span.start + place
        · simp [here]
        · simp [here, shift]
  · rfl

theorem slice_extend_of_outside (outside : ¬(span.start ≤ index ∧ index < span.stop)) :
    (header.extend index more).slice span = header.slice span := by
  apply List.ext_getElem?
  intro place
  rw [getElem?_slice, getElem?_slice, getElem?_lines_extend]
  split
  · have elsewhere : index ≠ span.start + place := by omega
    simp only [elsewhere, if_false, Option.map_id_fun', id_eq]
  · rfl

theorem take_slice (within : span.start ≤ index ∧ index < span.stop) :
    (header.slice span).take (index - span.start + 1) = header.slice ⟨span.start, index + 1⟩ := by
  apply List.ext_getElem?
  intro place
  rw [List.getElem?_take, getElem?_slice, getElem?_slice]
  dsimp only
  rw [← ite_and]
  congr 1
  rw [eq_iff_iff]
  omega

theorem sameCode_modify {inComment : Bool} {lines : List NumberedLine} {place : Nat}
    (stays : openBehind inComment (lines.take (place + 1)) = true →
      Text.contains ['*', '/'] comment = false) :
    SameCode inComment lines
      (lines.modify place fun line => ⟨line.number, line.text ++ trailing comment⟩) := by
  induction lines generalizing inComment place with
  | nil =>
      rw [List.modify_nil]
      exact .nil inComment
  | cons line lines ih =>
      cases place with
      | zero =>
          rw [List.modify_zero_cons]
          obtain ⟨blanks, blank, stripped⟩ := stripComments_append_trailing stays
          exact .cons rfl (by rw [stripped, Text.trim_append_right blank]) (by rw [stripped])
            (.refl _ lines)
      | succ place =>
          rw [List.modify_succ_cons]
          exact .cons rfl rfl rfl (ih stays)

/-- A comment behind a line is not read. -/
theorem toOption_guardedLines_extend
    (stays : header.OpenBehind span index → Text.contains ['*', '/'] comment = false) :
    ((header.extend index (trailing comment)).guardedLines span).toOption =
      (header.guardedLines span).toOption := by
  by_cases within : span.start ≤ index ∧ index < span.stop
  · have same : SameCode false (header.slice span)
        ((header.extend index (trailing comment)).slice span) := by
      rw [slice_extend within]
      apply sameCode_modify
      rw [take_slice within]
      exact fun opened => stays ⟨within.1, within.2, opened⟩
    exact same.toOption_keepLines .outside header.name
  · rw [guardedLines, slice_extend_of_outside within]
    rfl

end Header

end ApiTrace
