/-!
# Lines of a text

A line ends at a line feed; one carriage return directly before the line feed belongs to the ending.
A last line without a line feed counts, an empty rest after the last line feed does not.
-/

namespace ApiTrace.Text

/-- The line whose characters are `reversed` backwards, cut at a line feed. -/
def endLine : List Char → List Char
  | '\r' :: reversed => reversed.reverse
  | reversed => reversed.reverse

/-- The lines of `text`, after the characters `reversed` of an unfinished line. -/
def linesFrom (reversed : List Char) : List Char → List (List Char)
  | [] => if reversed.isEmpty then [] else [reversed.reverse]
  | c :: text =>
    if c = '\n' then endLine reversed :: linesFrom [] text else linesFrom (c :: reversed) text

/-- The lines of a text, without their endings. -/
def lines (text : List Char) : List (List Char) :=
  linesFrom [] text

/-- A line that does not end in a carriage return keeps all its characters. -/
theorem endLine_reverse {line : List Char} (kept : line.getLast? ≠ some '\r') :
    endLine line.reverse = line := by
  rw [List.getLast?_eq_head?_reverse] at kept
  cases reversed : line.reverse with
  | nil => exact (List.reverse_eq_nil_iff.1 reversed).symm
  | cons c rest =>
    have different : c ≠ '\r' := by
      rintro rfl
      exact kept (by rw [reversed, List.head?_cons])
    rw [endLine.eq_2 _ (fun tail same => different (List.cons.inj same).1), ← reversed,
      List.reverse_reverse]

theorem linesFrom_append_newline (reversed text rest : List Char) :
    linesFrom reversed (text ++ '\n' :: rest) =
      linesFrom reversed (text ++ ['\n']) ++ lines rest := by
  induction text generalizing reversed with
  | nil => simp [linesFrom, lines]
  | cons c text ih =>
    simp only [List.cons_append, linesFrom]
    split
    · rw [ih, List.cons_append]
    · exact ih (c :: reversed)

/-- A line feed separates the lines before it from the lines after it. -/
theorem lines_append_newline (text rest : List Char) :
    lines (text ++ '\n' :: rest) = lines (text ++ ['\n']) ++ lines rest :=
  linesFrom_append_newline [] text rest

theorem linesFrom_append_of_not_mem {text : List Char} (inline : '\n' ∉ text)
    (reversed rest : List Char) :
    linesFrom reversed (text ++ rest) = linesFrom (text.reverse ++ reversed) rest := by
  induction text generalizing reversed with
  | nil => rfl
  | cons c text ih =>
    have different : c ≠ '\n' := (List.ne_of_not_mem_cons inline).symm
    rw [List.cons_append, linesFrom, if_neg different, ih (List.not_mem_of_not_mem_cons inline)]
    simp

/-- Ending a line takes off at most a carriage return. -/
theorem endLine_reverse_cases (line : List Char) :
    endLine line.reverse = line ∨ endLine line.reverse ++ ['\r'] = line := by
  by_cases kept : line.getLast? = some '\r'
  · obtain ⟨before, rfl⟩ := List.getLast?_eq_some_iff.1 kept
    exact .inr (by rw [List.reverse_concat, endLine, List.reverse_reverse])
  · exact .inl (endLine_reverse kept)

/-- A line and the lines after it. -/
theorem lines_append_of_inline {line : List Char} (inline : '\n' ∉ line) (rest : List Char) :
    lines (line ++ '\n' :: rest) = endLine line.reverse :: lines rest := by
  rw [lines, linesFrom_append_of_not_mem inline, List.append_nil, linesFrom, if_pos rfl, lines]

/-- A line of its own. -/
theorem lines_cons {line : List Char} (inline : '\n' ∉ line) (kept : line.getLast? ≠ some '\r')
    (rest : List Char) : lines (line ++ '\n' :: rest) = line :: lines rest := by
  rw [lines_append_of_inline inline, endLine_reverse kept]

/-- Lines one after the other. -/
theorem lines_flatMap_of_inline {α : Type} {items : List α} {line : α → List Char}
    (inline : ∀ item ∈ items, '\n' ∉ line item) (rest : List Char) :
    lines (items.flatMap (fun item => line item ++ ['\n']) ++ rest) =
      items.map (fun item => endLine (line item).reverse) ++ lines rest := by
  induction items with
  | nil => rfl
  | cons item items ih =>
    obtain ⟨itemInline, restInline⟩ := List.forall_mem_cons.1 inline
    rw [List.flatMap_cons, List.append_assoc, List.append_assoc, List.singleton_append,
      lines_append_of_inline itemInline, ih restInline, List.map_cons, List.cons_append]

/-- Lines of their own, one after the other. -/
theorem lines_flatMap {α : Type} {items : List α} {line : α → List Char}
    (inline : ∀ item ∈ items, '\n' ∉ line item)
    (kept : ∀ item ∈ items, (line item).getLast? ≠ some '\r') (rest : List Char) :
    lines (items.flatMap (fun item => line item ++ ['\n']) ++ rest) =
      items.map line ++ lines rest := by
  rw [lines_flatMap_of_inline inline]
  congr 1
  exact List.map_congr_left fun item member => endLine_reverse (kept item member)

/-- The text of some lines, each ended by a line feed. -/
def unlines (lines : List (List Char)) : List Char :=
  lines.flatMap fun line => line ++ ['\n']

@[simp]
theorem unlines_nil : unlines [] = [] := rfl

@[simp]
theorem unlines_cons (line : List Char) (lines : List (List Char)) :
    unlines (line :: lines) = line ++ '\n' :: unlines lines := by
  simp [unlines]

@[simp]
theorem unlines_append (first second : List (List Char)) :
    unlines (first ++ second) = unlines first ++ unlines second := by
  simp [unlines]

theorem unlines_flatMap {α : Type} (items : List α) (block : α → List (List Char)) :
    unlines (items.flatMap block) = items.flatMap fun item => unlines (block item) := by
  simp [unlines, List.flatMap_assoc]

/-- The lines of a text made of lines. -/
theorem lines_unlines {block : List (List Char)} (inline : ∀ line ∈ block, '\n' ∉ line)
    (kept : ∀ line ∈ block, line.getLast? ≠ some '\r') : lines (unlines block) = block := by
  have written : lines (block.flatMap (fun line => id line ++ ['\n']) ++ []) =
      block.map id ++ lines [] := lines_flatMap inline kept []
  simpa [unlines, lines, linesFrom] using written

theorem endLine_isPrefix (reversed : List Char) : endLine reversed <+: reversed.reverse := by
  rcases endLine_reverse_cases reversed.reverse with same | same
  · rw [List.reverse_reverse] at same
    exact ⟨[], by rw [List.append_nil, same]⟩
  · rw [List.reverse_reverse] at same
    exact ⟨['\r'], same⟩

theorem isInfix_of_mem_linesFrom {reversed text line : List Char}
    (member : line ∈ linesFrom reversed text) : line <:+: reversed.reverse ++ text := by
  induction text generalizing reversed with
  | nil =>
      rw [linesFrom] at member
      split at member
      · contradiction
      · exact ⟨[], [], by rw [List.mem_singleton.mp member, List.nil_append]⟩
  | cons c text ih =>
      rw [linesFrom] at member
      split at member
      · rcases List.mem_cons.mp member with rfl | member
        · exact ((endLine_isPrefix reversed).trans (List.prefix_append _ _)).isInfix
        · have within := ih member
          rw [List.reverse_nil, List.nil_append] at within
          rw [List.append_cons]
          exact within.trans (List.suffix_append _ _).isInfix
      · have within := ih member
        rwa [List.reverse_cons, List.append_assoc, List.singleton_append] at within

/-- A line is a part of its text. -/
theorem isInfix_of_mem_lines {text line : List Char} (member : line ∈ lines text) :
    line <:+: text := by
  simpa using isInfix_of_mem_linesFrom member

theorem newline_not_mem_of_mem_linesFrom {reversed text line : List Char}
    (inline : '\n' ∉ reversed) (member : line ∈ linesFrom reversed text) : '\n' ∉ line := by
  induction text generalizing reversed with
  | nil =>
      rw [linesFrom] at member
      split at member
      · contradiction
      · rwa [List.mem_singleton.mp member, List.mem_reverse]
  | cons c text ih =>
      rw [linesFrom] at member
      split at member
      · rcases List.mem_cons.mp member with rfl | member
        · exact fun within =>
            inline (List.mem_reverse.mp ((endLine_isPrefix reversed).subset within))
        · exact ih List.not_mem_nil member
      · rename_i different
        exact ih (List.not_mem_cons_of_ne_of_not_mem (Ne.symm different) inline) member

/-- No line holds a line feed. -/
theorem newline_not_mem_of_mem_lines {text line : List Char} (member : line ∈ lines text) :
    '\n' ∉ line :=
  newline_not_mem_of_mem_linesFrom List.not_mem_nil member

theorem prefix_endLine {start reversed : List Char} (kept : '\r' ∉ start)
    (starts : start <+: reversed.reverse) : start <+: endLine reversed := by
  rw [endLine.eq_def]
  split
  · rename_i rest
    rw [List.reverse_cons, List.prefix_concat_iff] at starts
    rcases starts with same | starts
    · exact absurd (by simp [same]) kept
    · exact starts
  · exact starts

theorem exists_linesFrom_of_prefix {start : List Char} (nonempty : start ≠ []) (kept : '\r' ∉ start)
    (reversed text : List Char) (starts : start <+: reversed.reverse) :
    ∃ line rest, linesFrom reversed text = line :: rest ∧ start <+: line := by
  induction text generalizing reversed with
  | nil =>
    have pending : reversed.isEmpty = false := by
      rw [List.isEmpty_eq_false_iff]
      rintro rfl
      exact nonempty (List.prefix_nil.1 starts)
    exact ⟨reversed.reverse, [], by rw [linesFrom, pending]; rfl, starts⟩
  | cons c text ih =>
    rw [linesFrom]
    split
    · exact ⟨_, _, rfl, prefix_endLine kept starts⟩
    · apply ih
      rw [List.reverse_cons]
      exact starts.trans (List.prefix_append _ _)

/-- The first line starts with everything that the text starts with, short of a line ending. -/
theorem exists_lines_of_append {start : List Char} (nonempty : start ≠ []) (inline : '\n' ∉ start)
    (kept : '\r' ∉ start) (text : List Char) :
    ∃ line rest, lines (start ++ text) = line :: rest ∧ start <+: line := by
  rw [lines, linesFrom_append_of_not_mem inline, List.append_nil]
  exact exists_linesFrom_of_prefix nonempty kept start.reverse text (by simp)

end ApiTrace.Text
