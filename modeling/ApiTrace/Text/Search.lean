/-!
# Searching a text for a fixed pattern

Cuts of a text at the first, at the last, or at every occurrence of a pattern, and what follows
from them: containment, counting and replacement. The cuts lose nothing: the parts with the pattern
between them are the text again.
-/

namespace ApiTrace.Text

/-- The parts before and after the first occurrence of `pattern`. -/
def splitOnce? (pattern : List Char) : List Char → Option (List Char × List Char)
  | [] => (pattern.isPrefixOf? []).map fun rest => ([], rest)
  | c :: text =>
    match pattern.isPrefixOf? (c :: text) with
    | some rest => some ([], rest)
    | none => (splitOnce? pattern text).map fun parts => (c :: parts.1, parts.2)

/-- The parts before and after the last occurrence of `pattern`. -/
def splitLast? (pattern : List Char) : List Char → Option (List Char × List Char)
  | [] => (pattern.isPrefixOf? []).map fun rest => ([], rest)
  | c :: text =>
    match splitLast? pattern text with
    | some parts => some (c :: parts.1, parts.2)
    | none => (pattern.isPrefixOf? (c :: text)).map fun rest => ([], rest)

/-- Whether `pattern` occurs in `text`. -/
def contains (pattern text : List Char) : Bool :=
  (splitOnce? pattern text).isSome

theorem isPrefixOf?_cons_cons (p c : Char) (pattern text : List Char) :
    (p :: pattern).isPrefixOf? (c :: text) =
      if p == c then pattern.isPrefixOf? text else none := rfl

theorem append_of_isPrefixOf?_eq_some {pattern text rest : List Char}
    (h : pattern.isPrefixOf? text = some rest) : text = pattern ++ rest := by
  induction pattern generalizing text with
  | nil => exact Option.some.inj h
  | cons p pattern ih =>
    cases text with
    | nil => contradiction
    | cons c text =>
      rw [isPrefixOf?_cons_cons] at h
      split at h
      · rename_i same
        rw [ih h, eq_of_beq same, List.cons_append]
      · contradiction

/-- The parts of a cut, with the pattern between them, are the text. -/
theorem append_of_splitOnce?_eq_some {pattern text before after : List Char}
    (h : splitOnce? pattern text = some (before, after)) :
    text = before ++ pattern ++ after := by
  induction text generalizing before after with
  | nil =>
    obtain ⟨rest, found, same⟩ := Option.map_eq_some_iff.1 h
    obtain ⟨rfl, rfl⟩ := Prod.mk.inj same
    simpa using append_of_isPrefixOf?_eq_some found
  | cons c text ih =>
    simp only [splitOnce?] at h
    split at h
    · rename_i rest found
      obtain ⟨rfl, rfl⟩ := Prod.mk.inj (Option.some.inj h)
      simpa using append_of_isPrefixOf?_eq_some found
    · obtain ⟨parts, found, same⟩ := Option.map_eq_some_iff.1 h
      obtain ⟨rfl, rfl⟩ := Prod.mk.inj same
      rw [ih found]
      simp

/-- The parts of the last cut, with the pattern between them, are the text. -/
theorem append_of_splitLast?_eq_some {pattern text before after : List Char}
    (h : splitLast? pattern text = some (before, after)) :
    text = before ++ pattern ++ after := by
  induction text generalizing before after with
  | nil =>
    obtain ⟨rest, found, same⟩ := Option.map_eq_some_iff.1 h
    obtain ⟨rfl, rfl⟩ := Prod.mk.inj same
    simpa using append_of_isPrefixOf?_eq_some found
  | cons c text ih =>
    simp only [splitLast?] at h
    split at h
    · rename_i parts found
      obtain ⟨rfl, rfl⟩ := Prod.mk.inj (Option.some.inj h)
      rw [ih found]
      simp
    · obtain ⟨rest, found, same⟩ := Option.map_eq_some_iff.1 h
      obtain ⟨rfl, rfl⟩ := Prod.mk.inj same
      simpa using append_of_isPrefixOf?_eq_some found

theorem isPrefixOf?_append_self (pattern rest : List Char) :
    pattern.isPrefixOf? (pattern ++ rest) = some rest := by
  induction pattern with
  | nil => rfl
  | cons c pattern ih =>
    rw [List.cons_append, isPrefixOf?_cons_cons, beq_self_eq_true, if_pos rfl, ih]

/-- The first cut is at a pattern whose first character does not come before. -/
theorem splitOnce?_append {c : Char} {before : List Char} (absent : c ∉ before)
    (pattern after : List Char) :
    splitOnce? (c :: pattern) (before ++ (c :: pattern ++ after)) = some (before, after) := by
  induction before with
  | nil =>
    have prefixed := isPrefixOf?_append_self (c :: pattern) after
    rw [List.cons_append] at prefixed
    rw [List.nil_append, List.cons_append, splitOnce?, prefixed]
  | cons head before ih =>
    have different : c ≠ head := List.ne_of_not_mem_cons absent
    have restAbsent : c ∉ before := List.not_mem_of_not_mem_cons absent
    rw [List.cons_append, splitOnce?, isPrefixOf?_cons_cons, if_neg (by simpa using different),
      ih restAbsent, Option.map_some]

theorem isSome_isPrefixOf?_iff {pattern text : List Char} :
    (pattern.isPrefixOf? text).isSome ↔ pattern <+: text := by
  constructor
  · intro found
    obtain ⟨rest, found⟩ := Option.isSome_iff_exists.1 found
    rw [append_of_isPrefixOf?_eq_some found]
    exact List.prefix_append pattern rest
  · rintro ⟨rest, rfl⟩
    rw [isPrefixOf?_append_self, Option.isSome_some]

/-- A text contains a pattern that stands somewhere in it. -/
theorem contains_iff_isInfix {pattern text : List Char} :
    contains pattern text ↔ pattern <:+: text := by
  induction text with
  | nil =>
    rw [contains, splitOnce?, Option.isSome_map, isSome_isPrefixOf?_iff, List.prefix_nil,
      List.infix_nil]
  | cons c text ih =>
    rw [List.infix_cons_iff, ← isSome_isPrefixOf?_iff, ← ih, contains, splitOnce?]
    cases pattern.isPrefixOf? (c :: text) with
    | some rest => simp
    | none => simp [contains]

/-- No occurrence of a pattern runs over a character that the pattern lacks. -/
theorem contains_append_cons {c : Char} {pattern : List Char} (absent : c ∉ pattern)
    (before after : List Char) :
    contains pattern (before ++ c :: after) =
      (contains pattern before || contains pattern after) := by
  rw [Bool.eq_iff_iff, Bool.or_eq_true, contains_iff_isInfix, contains_iff_isInfix,
    contains_iff_isInfix, List.infix_append_iff, List.infix_cons_iff]
  have empty : ∀ part, c ∉ part → part <+: c :: after → part = [] := by
    intro part lacks starts
    rcases List.prefix_cons_iff.1 starts with empty | ⟨rest, rfl, _⟩
    · exact empty
    · exact absurd List.mem_cons_self lacks
  constructor
  · rintro (inBefore | (starts | inAfter) | ⟨first, second, rfl, ends, starts⟩)
    · exact .inl inBefore
    · rw [empty pattern absent starts]
      exact .inl List.nil_infix
    · exact .inr inAfter
    · rw [empty second (fun member => absent (List.mem_append_right first member)) starts,
        List.append_nil]
      exact .inl ends.isInfix
  -- An occurrence in a part stays one in the whole.
  · rintro (inBefore | inAfter)
    · exact .inl inBefore
    · exact .inr (.inl (.inr inAfter))

theorem splitLast?_eq_none_of_not_mem {c : Char} {pattern text : List Char} (absent : c ∉ text) :
    splitLast? (c :: pattern) text = none := by
  induction text with
  | nil => rfl
  | cons head text ih =>
    have different : c ≠ head := List.ne_of_not_mem_cons absent
    have restAbsent : c ∉ text := List.not_mem_of_not_mem_cons absent
    simp [splitLast?, ih restAbsent, isPrefixOf?_cons_cons, different]

/-- The last cut is at a pattern whose first character does not come again. -/
theorem splitLast?_append {c : Char} {pattern after : List Char} (before : List Char)
    (absent : c ∉ pattern ++ after) :
    splitLast? (c :: pattern) (before ++ (c :: pattern ++ after)) = some (before, after) := by
  induction before with
  | nil =>
    have prefixed := isPrefixOf?_append_self (c :: pattern) after
    rw [List.cons_append] at prefixed
    rw [List.nil_append, List.cons_append, splitLast?, splitLast?_eq_none_of_not_mem absent]
    simp only [prefixed, Option.map_some]
  | cons head before ih =>
    rw [List.cons_append, splitLast?, ih]

/-- The part after a nonempty pattern is shorter than the text. -/
theorem length_after_lt_of_splitOnce?_eq_some {pattern text before after : List Char}
    (nonempty : pattern ≠ []) (h : splitOnce? pattern text = some (before, after)) :
    after.length < text.length := by
  have := List.length_pos_iff.2 nonempty
  rw [append_of_splitOnce?_eq_some h]
  simp only [List.length_append]
  omega

/-- The parts between the occurrences of a nonempty `pattern`, found from left to right. -/
def splitEvery (pattern : List Char) (nonempty : pattern ≠ []) (text : List Char) :
    List (List Char) :=
  match _ : splitOnce? pattern text with
  | none => [text]
  | some (before, after) => before :: splitEvery pattern nonempty after
termination_by text.length
decreasing_by exact length_after_lt_of_splitOnce?_eq_some nonempty ‹_›

/-- The parts between the occurrences of `pattern`. The empty pattern occurs before every character
and at the end, so it leaves single characters between two empty parts. -/
def pieces (pattern text : List Char) : List (List Char) :=
  if nonempty : pattern ≠ [] then splitEvery pattern nonempty text
  else [] :: (text.map fun c => [c]) ++ [[]]

/-- How often `pattern` occurs without overlap, from left to right. -/
def occurrences (pattern text : List Char) : Nat :=
  (pieces pattern text).length - 1

/-- Write `replacement` for every occurrence of `pattern`. -/
def replaceEvery (pattern replacement text : List Char) : List Char :=
  replacement.intercalate (pieces pattern text)

theorem subset_of_mem_splitEvery {pattern : List Char} (nonempty : pattern ≠ [])
    {text part : List Char} (member : part ∈ splitEvery pattern nonempty text) : part ⊆ text := by
  fun_induction splitEvery pattern nonempty text with
  | case1 text uncut =>
      rw [List.mem_singleton.mp member]
      exact List.Subset.refl text
  | case2 text before after cut ih =>
      have split := append_of_splitOnce?_eq_some cut
      rcases List.mem_cons.mp member with rfl | member
      · rw [split, List.append_assoc]
        exact List.subset_append_left _ _
      · refine List.Subset.trans (ih member) ?_
        rw [split]
        exact List.subset_append_right _ _

theorem subset_of_mem_pieces {pattern text part : List Char} (member : part ∈ pieces pattern text) :
    part ⊆ text := by
  unfold pieces at member
  split at member
  · exact subset_of_mem_splitEvery _ member
  · rcases List.mem_append.mp member with member | member
    · rcases List.mem_cons.mp member with rfl | member
      · exact List.nil_subset text
      · obtain ⟨c, inText, rfl⟩ := List.mem_map.mp member
        exact List.cons_subset.mpr ⟨inText, List.nil_subset text⟩
    · rw [List.mem_singleton.mp member]
      exact List.nil_subset text

theorem mem_of_mem_intercalate {separator : List Char} {parts : List (List Char)} {c : Char}
    (member : c ∈ separator.intercalate parts) : c ∈ separator ∨ ∃ part ∈ parts, c ∈ part := by
  induction parts with
  | nil => exact absurd member List.not_mem_nil
  | cons part parts ih =>
      cases parts with
      | nil =>
          rw [List.intercalate_singleton] at member
          exact .inr ⟨part, List.mem_cons_self, member⟩
      | cons next parts =>
          rw [List.intercalate_cons_cons, List.mem_append, List.mem_append] at member
          rcases member with (inPart | inSeparator) | later
          · exact .inr ⟨part, List.mem_cons_self, inPart⟩
          · exact .inl inSeparator
          · exact (ih later).imp_right fun ⟨other, among, inOther⟩ =>
              ⟨other, List.mem_cons_of_mem _ among, inOther⟩

/-- A replacement brings in nothing but what it writes. -/
theorem mem_of_mem_replaceEvery {pattern replacement text : List Char} {c : Char}
    (member : c ∈ replaceEvery pattern replacement text) : c ∈ replacement ∨ c ∈ text :=
  (mem_of_mem_intercalate member).imp_right fun ⟨_, among, inPiece⟩ =>
    subset_of_mem_pieces among inPiece

/-- The text without `pattern` at its start, if it starts with it. -/
def dropStart? (pattern text : List Char) : Option (List Char) :=
  pattern.isPrefixOf? text

/-- The text without `pattern` at its end, if it ends with it. -/
def dropEnd? (pattern text : List Char) : Option (List Char) :=
  (pattern.reverse.isPrefixOf? text.reverse).map List.reverse

theorem dropEnd?_append (text pattern : List Char) :
    dropEnd? pattern (text ++ pattern) = some text := by
  rw [dropEnd?, List.reverse_append, isPrefixOf?_append_self, Option.map_some, List.reverse_reverse]

end ApiTrace.Text
