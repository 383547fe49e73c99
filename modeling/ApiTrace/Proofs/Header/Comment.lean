import ApiTrace.Header.Comment

/-!
# Texts without comments

What is left of a line holds no mark that opens a comment, so removing comments again changes
nothing. A line without a slash has no comments, and a line with two slashes after none is cut
there.
-/

namespace ApiTrace

namespace Text

variable {pattern text before after : List Char}

/-- The cut is at the first occurrence. -/
theorem length_le_of_splitOnce? (cut : splitOnce? pattern text = some (before, after))
    {earlier later : List Char} (split : text = earlier ++ pattern ++ later) :
    before.length ≤ earlier.length := by
  induction text generalizing before earlier with
  | nil =>
      obtain ⟨rest, _, same⟩ := Option.map_eq_some_iff.mp cut
      cases same
      exact Nat.zero_le _
  | cons c text ih =>
      rw [splitOnce?] at cut
      split at cut
      · cases cut
        exact Nat.zero_le _
      · rename_i notHere
        obtain ⟨⟨first, rest⟩, found, same⟩ := Option.map_eq_some_iff.mp cut
        cases same
        cases earlier with
        | nil =>
            rw [List.nil_append] at split
            rw [split, isPrefixOf?_append_self] at notHere
            contradiction
        | cons d earlier =>
            obtain ⟨rfl, rest⟩ := List.cons.inj split
            exact Nat.succ_le_succ (ih found rest)

theorem prefix_of_splitOnce? (cut : splitOnce? pattern text = some (before, after)) :
    before <+: text := by
  rw [append_of_splitOnce?_eq_some cut, List.append_assoc]
  exact List.prefix_append _ _

theorem splitOnce?_eq_none_iff :
    splitOnce? pattern text = none ↔ contains pattern text = false := by
  rw [contains, Option.isSome_eq_false_iff, Option.isNone_iff_eq_none]

theorem contains_eq_false_of_isInfix {part : List Char} (within : part <:+: text)
    (free : contains pattern text = false) : contains pattern part = false := by
  rw [← Bool.not_eq_true, contains_iff_isInfix] at free ⊢
  exact fun inPart => free (inPart.trans within)

/-- The pattern does not occur in a start of the text that ends at or before every cut. -/
theorem contains_eq_false_of_length_le (nonempty : pattern ≠ []) {start : List Char}
    (starts : start <+: text)
    (short : ∀ before after, splitOnce? pattern text = some (before, after) →
      start.length ≤ before.length) : contains pattern start = false := by
  rw [← Bool.not_eq_true, contains_iff_isInfix]
  rintro ⟨earlier, later, rfl⟩
  obtain ⟨rest, split⟩ := starts
  have whole : text = earlier ++ pattern ++ (later ++ rest) := by
    rw [← split, List.append_assoc _ later]
  have inText : contains pattern text = true := contains_iff_isInfix.mpr ⟨_, _, whole.symm⟩
  obtain ⟨⟨before, after⟩, cut⟩ := Option.isSome_iff_exists.mp inText
  have first := length_le_of_splitOnce? cut whole
  have fits := short before after cut
  have long := List.length_pos_iff.mpr nonempty
  rw [List.length_append, List.length_append] at fits
  omega

theorem contains_eq_false_of_not_mem {c : Char} {rest : List Char} (absent : c ∉ text) :
    contains (c :: rest) text = false := by
  rw [← Bool.not_eq_true, contains_iff_isInfix]
  exact fun within => absent (within.subset List.mem_cons_self)

end Text

namespace Header

/-- No mark opens a comment in the text. -/
def CommentFree (text : List Char) : Prop :=
  Text.contains ['/', '/'] text = false ∧ Text.contains ['/', '*'] text = false

theorem CommentFree.of_isInfix {text part : List Char} (within : part <:+: text)
    (free : CommentFree text) : CommentFree part :=
  ⟨Text.contains_eq_false_of_isInfix within free.1, Text.contains_eq_false_of_isInfix within free.2⟩

theorem commentFree_of_not_mem {text : List Char} (absent : '/' ∉ text) : CommentFree text :=
  ⟨Text.contains_eq_false_of_not_mem absent, Text.contains_eq_false_of_not_mem absent⟩

/-- Two texts with something between them that is neither a slash nor an asterisk. -/
theorem CommentFree.append_cons {c : Char} (slash : c ≠ '/') (asterisk : c ≠ '*')
    {before after : List Char} (first : CommentFree before) (second : CommentFree after) :
    CommentFree (before ++ c :: after) := by
  constructor
  · rw [Text.contains_append_cons (by simp [slash]), first.1, second.1]
    rfl
  · rw [Text.contains_append_cons (by simp [slash, asterisk]), first.2, second.2]
    rfl

/-! ## What comes first -/

section First

variable {text before after : List Char}

/-- A line comment comes first: no block comment starts before it. -/
theorem commentStart_eq_line_iff :
    commentStart text = .line before ↔
      (∃ after, Text.splitOnce? ['/', '/'] text = some (before, after)) ∧
        ∀ first rest, Text.splitOnce? ['/', '*'] text = some (first, rest) →
          before.length < first.length := by
  unfold commentStart
  cases Text.splitOnce? ['/', '/'] text with
  | none => cases Text.splitOnce? ['/', '*'] text <;> simp
  | some line =>
      obtain ⟨beforeLine, afterLine⟩ := line
      cases Text.splitOnce? ['/', '*'] text with
      | none => simp
      | some block =>
          obtain ⟨beforeBlock, afterBlock⟩ := block
          dsimp only
          split <;> rename_i order
          · constructor
            · rintro ⟨⟩
              exact ⟨⟨afterLine, rfl⟩, by rintro _ _ ⟨⟩; exact order⟩
            · rintro ⟨⟨_, ⟨⟩⟩, _⟩
              rfl
          · refine ⟨fun block => by contradiction, ?_⟩
            rintro ⟨⟨_, ⟨⟩⟩, first⟩
            exact absurd (first _ _ rfl) order

/-- A block comment comes first: no line comment starts before it. -/
theorem commentStart_eq_block_iff :
    commentStart text = .block before after ↔
      Text.splitOnce? ['/', '*'] text = some (before, after) ∧
        ∀ first rest, Text.splitOnce? ['/', '/'] text = some (first, rest) →
          before.length ≤ first.length := by
  unfold commentStart
  cases Text.splitOnce? ['/', '*'] text with
  | none => cases Text.splitOnce? ['/', '/'] text <;> simp
  | some block =>
      obtain ⟨beforeBlock, afterBlock⟩ := block
      cases Text.splitOnce? ['/', '/'] text with
      | none => simp
      | some line =>
          obtain ⟨beforeLine, afterLine⟩ := line
          dsimp only
          split <;> rename_i order
          · refine ⟨fun line => by contradiction, ?_⟩
            rintro ⟨⟨⟩, first⟩
            exact absurd order (Nat.not_lt.mpr (first _ _ rfl))
          · constructor
            · rintro ⟨⟩
              exact ⟨rfl, by rintro _ _ ⟨⟩; exact Nat.not_lt.mp order⟩
            · rintro ⟨⟨⟩, _⟩
              rfl

theorem commentStart_eq_absent_iff : commentStart text = .absent ↔ CommentFree text := by
  rw [CommentFree, ← Text.splitOnce?_eq_none_iff, ← Text.splitOnce?_eq_none_iff]
  unfold commentStart
  cases Text.splitOnce? ['/', '/'] text <;> cases Text.splitOnce? ['/', '*'] text <;> simp
  split <;> simp

theorem stripComments_of_unended (unended : Text.splitOnce? ['*', '/'] text = none) :
    stripComments true text = ([], true) := by
  rw [stripComments, if_pos rfl]
  split
  · rfl
  · rename_i ended
    rw [unended] at ended
    contradiction

theorem stripComments_of_ended (ended : Text.splitOnce? ['*', '/'] text = some (before, after)) :
    stripComments true text = stripComments false after := by
  rw [stripComments, if_pos rfl]
  split
  · rename_i unended
    rw [ended] at unended
    contradiction
  · rename_i found
    rw [ended] at found
    cases found
    rfl

theorem stripComments_of_absent (starts : commentStart text = .absent) :
    stripComments false text = (text, false) := by
  rw [stripComments, if_neg Bool.false_ne_true]
  split <;> simp_all

theorem stripComments_of_line (starts : commentStart text = .line before) :
    stripComments false text = (before, false) := by
  rw [stripComments, if_neg Bool.false_ne_true]
  split <;> simp_all

theorem stripComments_of_block (starts : commentStart text = .block before after) :
    stripComments false text =
      (before ++ ' ' :: (stripComments true after).1, (stripComments true after).2) := by
  rw [stripComments, if_neg Bool.false_ne_true]
  split <;> simp_all

end First

/-- A text without comments is left as it is. -/
theorem stripComments_of_free {text : List Char} (free : CommentFree text) :
    stripComments false text = (text, false) :=
  stripComments_of_absent (commentStart_eq_absent_iff.mpr free)

theorem commentStart_line {before : List Char} (absent : '/' ∉ before) (after : List Char) :
    commentStart (before ++ '/' :: '/' :: after) = .line before := by
  refine commentStart_eq_line_iff.mpr ⟨⟨after, Text.splitOnce?_append absent ['/'] after⟩, ?_⟩
  intro first rest block
  have split := Text.append_of_splitOnce?_eq_some block
  rw [List.append_assoc, List.cons_append, List.cons_append, List.nil_append] at split
  rw [← Nat.not_le]
  intro short
  -- Up to its length, the start of the block comment lies before the two slashes.
  have inWhole : before <+: before ++ '/' :: '/' :: after := List.prefix_append _ _
  obtain ⟨gap, rfl⟩ := List.prefix_of_prefix_length_le ⟨_, split.symm⟩ inWhole short
  rw [List.append_assoc] at split
  have behind := List.append_cancel_left split
  cases gap with
  | nil => exact absurd (List.cons.inj (List.cons.inj behind).2).1 (by decide)
  | cons c gap =>
      apply absent
      rw [(List.cons.inj behind).1]
      exact List.mem_append_right _ List.mem_cons_self

/-- A comment that runs to the end of the line is cut off. -/
theorem stripComments_line {before : List Char} (absent : '/' ∉ before) (after : List Char) :
    stripComments false (before ++ '/' :: '/' :: after) = (before, false) :=
  stripComments_of_line (commentStart_line absent after)

theorem commentFree_of_line {text before : List Char} (starts : commentStart text = .line before) :
    CommentFree before := by
  obtain ⟨⟨after, line⟩, first⟩ := commentStart_eq_line_iff.mp starts
  have within := Text.prefix_of_splitOnce? line
  exact ⟨Text.contains_eq_false_of_length_le (by simp) within fun _ _ again => by
      rw [line] at again
      cases again
      exact Nat.le_refl _,
    Text.contains_eq_false_of_length_le (by simp) within fun _ _ block =>
      Nat.le_of_lt (first _ _ block)⟩

theorem commentFree_of_block {text before after : List Char}
    (starts : commentStart text = .block before after) : CommentFree before := by
  obtain ⟨block, first⟩ := commentStart_eq_block_iff.mp starts
  have within := Text.prefix_of_splitOnce? block
  exact ⟨Text.contains_eq_false_of_length_le (by simp) within first,
    Text.contains_eq_false_of_length_le (by simp) within fun _ _ again => by
      rw [block] at again
      cases again
      exact Nat.le_refl _⟩

/-- What is left of a text holds no comment. -/
theorem commentFree_stripComments (inComment : Bool) (text : List Char) :
    CommentFree (stripComments inComment text).1 := by
  fun_induction stripComments inComment text with
  | case1 text unended => exact commentFree_of_not_mem List.not_mem_nil
  | case2 text before after ended ih => exact ih
  | case3 text inComment outside absent => exact commentStart_eq_absent_iff.mp absent
  | case4 text inComment outside before starts => exact commentFree_of_line starts
  | case5 text inComment outside before after starts rest ih =>
      exact (commentFree_of_block starts).append_cons (by decide) (by decide) ih

/-- What is left of a text was there before, but for the blanks in the place of comments. -/
theorem mem_of_mem_stripComments {inComment : Bool} {text : List Char} {c : Char}
    (member : c ∈ (stripComments inComment text).1) : c = ' ' ∨ c ∈ text := by
  fun_induction stripComments inComment text with
  | case1 text unended => exact absurd member List.not_mem_nil
  | case2 text before after ended ih =>
      have within : after <:+ text := ⟨_, (Text.append_of_splitOnce?_eq_some ended).symm⟩
      exact (ih member).imp_right fun later => within.subset later
  | case3 text inComment outside absent => exact .inr member
  | case4 text inComment outside before starts =>
      obtain ⟨⟨after, line⟩, _⟩ := commentStart_eq_line_iff.mp starts
      exact .inr ((Text.prefix_of_splitOnce? line).subset member)
  | case5 text inComment outside before after starts rest ih =>
      have split := Text.append_of_splitOnce?_eq_some (commentStart_eq_block_iff.mp starts).1
      rw [split, List.append_assoc, List.mem_append, List.mem_append]
      rcases List.mem_append.mp member with earlier | later
      · exact .inr (.inl earlier)
      · rcases List.mem_cons.mp later with blank | later
        · exact .inl blank
        · exact (ih later).imp_right fun inAfter => .inr (.inr inAfter)

end Header

end ApiTrace
