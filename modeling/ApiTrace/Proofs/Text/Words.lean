import ApiTrace.Proofs.Header.Comment
import ApiTrace.Text.Blank
import ApiTrace.Text.WordClass

/-!
# Words of a text

A text falls into words at its blanks. A pattern without blanks occurs in a text exactly if it
occurs in one of its words, blanks around a text do not matter, and every word has its place in the
text, with the words before it and behind it on its two sides.
-/

namespace ApiTrace.Text

/-- The codes of the blanks. -/
def blankCodes : List Nat :=
  List.range' 9 5 ++ List.range' 0x2000 11 ++
    [0x20, 0x85, 0xA0, 0x1680, 0x2028, 0x2029, 0x202F, 0x205F, 0x3000]

theorem toNat_mem_blankCodes {c : Char} (blank : isBlank c = true) : c.toNat ∈ blankCodes := by
  simp only [isBlank, Bool.or_eq_true, Bool.and_eq_true, decide_eq_true_eq, beq_iff_eq] at blank
  rw [blankCodes, List.mem_append, List.mem_append, List.mem_range'_1, List.mem_range'_1]
  rcases blank with
    (((((((((⟨low, high⟩ | code) | code) | code) | code) | ⟨low, high⟩) | code) | code) |
    code) | code) | code
  case inl.inl.inl.inl.inl.inl.inl.inl.inl.inl => exact .inl (.inl (by omega))
  case inl.inl.inl.inl.inl.inr => exact .inl (.inr (by omega))
  all_goals
    rw [code]
    exact .inr (by decide)

/-- A word character is no blank. -/
theorem isBlank_of_isWordChar {c : Char} (inWord : isWordChar c = true) : isBlank c = false := by
  have outside : ∀ code ∈ blankCodes, isWordChar (Char.ofNat code) = false := by decide +kernel
  rw [← Bool.not_eq_true]
  intro blank
  have notWord := outside c.toNat (toNat_mem_blankCodes blank)
  rw [Char.ofNat_toNat] at notWord
  exact absurd (inWord.symm.trans notWord) nofun

theorem ne_nil_of_isIdentifier {text : List Char} (identifier : isIdentifier text = true) :
    text ≠ [] := by
  rintro rfl
  contradiction

theorem isBlank_of_mem_identifier {text : List Char} (identifier : isIdentifier text = true) :
    ∀ c ∈ text, isBlank c = false :=
  fun c member => isBlank_of_isWordChar (forall_isWordChar_of_isIdentifier identifier c member)

/-! ## Cutting at blanks -/

/-- A text has no character of a kind, or it goes on behind the first one. -/
@[elab_as_elim]
theorem cut_induction (p : Char → Bool) {motive : List Char → Prop} (text : List Char)
    (solid : ∀ text, (∀ c ∈ text, p c = false) → motive text)
    (cut : ∀ start c rest, (∀ d ∈ start, p d = false) → p c = true → motive rest →
      motive (start ++ c :: rest)) : motive text := by
  induction length : text.length using Nat.strongRecOn generalizing text with
  | ind size ih =>
      cases first : text.find? p with
      | none =>
          apply solid
          simpa using first
      | some c =>
          obtain ⟨holds, start, rest, rfl, before⟩ := List.find?_eq_some_iff_append.mp first
          have shorter : rest.length < size := by
            rw [← length, List.length_append, List.length_cons]
            omega
          exact cut start c rest (by simpa using before) holds (ih rest.length shorter rest rfl)

theorem words_append_cons {c : Char} (blank : isBlank c = true) (first second : List Char) :
    words (first ++ c :: second) = words first ++ words second := by
  rw [words, List.splitOnP_append_cons first second blank, List.filter_append, words, words]

/-- A text without blanks is a word. -/
theorem words_of_solid {text : List Char} (nonempty : text ≠ [])
    (solid : ∀ c ∈ text, isBlank c = false) : words text = [text] := by
  rw [words, List.splitOnP_eq_singleton solid]
  simpa using nonempty

theorem flatten_words_of_solid {text : List Char} (solid : ∀ c ∈ text, isBlank c = false) :
    (words text).flatten = text := by
  cases text with
  | nil => rfl
  | cons c rest => rw [words_of_solid (List.cons_ne_nil c rest) solid, List.flatten_singleton]

/-- The words are the text without its blanks. -/
theorem flatten_words (text : List Char) :
    (words text).flatten = text.filter fun c => !isBlank c := by
  have kept {part : List Char} (solid : ∀ c ∈ part, isBlank c = false) :
      part.filter (fun c => !isBlank c) = part :=
    List.filter_eq_self.mpr fun c member => by rw [solid c member]; rfl
  induction text using cut_induction isBlank with
  | solid text solid => rw [flatten_words_of_solid solid, kept solid]
  | cut start c rest solid blank ih =>
      rw [words_append_cons blank, List.flatten_append, ih, flatten_words_of_solid solid,
        List.filter_append, kept solid, List.filter_cons_of_neg (by simp [blank])]

theorem words_cons_of_blank {c : Char} (blank : isBlank c = true) (text : List Char) :
    words (c :: text) = words text :=
  words_append_cons blank [] text

theorem words_append_left {blanks : List Char} (blank : ∀ c ∈ blanks, isBlank c = true)
    (text : List Char) : words (blanks ++ text) = words text := by
  induction blanks with
  | nil => rfl
  | cons c blanks ih =>
      obtain ⟨first, rest⟩ := List.forall_mem_cons.mp blank
      rw [List.cons_append, words_cons_of_blank first, ih rest]

theorem words_append_right {blanks : List Char} (blank : ∀ c ∈ blanks, isBlank c = true)
    (text : List Char) : words (text ++ blanks) = words text := by
  cases blanks with
  | nil => rw [List.append_nil]
  | cons c blanks =>
      obtain ⟨first, rest⟩ := List.forall_mem_cons.mp blank
      have none := words_append_left rest []
      rw [List.append_nil] at none
      rw [words_append_cons first, none]
      exact List.append_nil (words text)

/-- A text is what is left of it, and the longest run at its end. -/
theorem exists_append_dropEndWhile (p : Char → Bool) (text : List Char) :
    ∃ dropped, text = dropEndWhile p text ++ dropped ∧ (∀ c ∈ dropped, p c = true) ∧
      ∀ c ∈ (dropEndWhile p text).getLast?, p c = false := by
  have run : ∀ c ∈ text.reverse.takeWhile p, p c = true := List.all_eq_true.mp List.all_takeWhile
  refine ⟨(text.reverse.takeWhile p).reverse, ?_,
    fun c member => run c (List.mem_reverse.mp member), ?_⟩
  · rw [dropEndWhile, ← List.reverse_append, List.takeWhile_append_dropWhile, List.reverse_reverse]
  · intro c last
    have stopped := List.head?_dropWhile_not p text.reverse
    rw [dropEndWhile, List.getLast?_reverse] at last
    rw [last] at stopped
    exact stopped

/-- A run at the end is dropped if it is the longest one. -/
theorem dropEndWhile_append_eq {p : Char → Bool} {text dropped : List Char}
    (kept : ∀ c ∈ text.getLast?, p c = false) (run : ∀ c ∈ dropped, p c = true) :
    dropEndWhile p (text ++ dropped) = text := by
  rw [dropEndWhile_append text run, dropEndWhile]
  rw [List.getLast?_eq_head?_reverse] at kept
  cases reversed : text.reverse with
  | nil => exact (List.reverse_eq_nil_iff.mp reversed).symm
  | cons c rest =>
      have solid : p c = false := kept c (by rw [reversed]; rfl)
      rw [List.dropWhile_cons_of_neg (by simp [solid]), ← reversed, List.reverse_reverse]

/-- A text is what trimming leaves of it, between blanks. -/
theorem exists_append_trim (text : List Char) : ∃ left right, text = left ++ (trim text ++ right) ∧
    (∀ c ∈ left, isBlank c = true) ∧ ∀ c ∈ right, isBlank c = true := by
  obtain ⟨right, split, rightBlank, _⟩ := exists_append_dropEndWhile isBlank (trimStart text)
  refine ⟨text.takeWhile isBlank, right, ?_, List.all_eq_true.mp List.all_takeWhile, rightBlank⟩
  rw [trim, trimEnd, ← split, trimStart, List.takeWhile_append_dropWhile]

/-- A trimmed text has no blanks around a part of it. -/
theorem eq_of_trim_eq_self {text left middle right : List Char} (trimmed : trim text = text)
    (split : text = left ++ (middle ++ right)) (leftBlank : ∀ c ∈ left, isBlank c = true)
    (rightBlank : ∀ c ∈ right, isBlank c = true) : text = middle := by
  have inner : text = trim middle := by
    rw [← trimmed, split, trim_append leftBlank, trim_append_right rightBlank]
  have shorter := (trim_isInfix middle).length_le
  have lengths := congrArg List.length split
  rw [← inner] at shorter
  rw [List.length_append, List.length_append] at lengths
  have leftEmpty : left = [] := List.length_eq_zero_iff.mp (by omega)
  have rightEmpty : right = [] := List.length_eq_zero_iff.mp (by omega)
  rw [split, leftEmpty, rightEmpty, List.nil_append, List.append_nil]

@[simp]
theorem words_trim (text : List Char) : words (trim text) = words text := by
  obtain ⟨left, right, split, leftBlank, rightBlank⟩ := exists_append_trim text
  calc
    words (trim text) = words (left ++ (trim text ++ right)) := by
      rw [words_append_left leftBlank, words_append_right rightBlank]
    _ = words text := by rw [← split]

/-- A character that is no blank stands in a word. -/
theorem exists_word_of_mem {text : List Char} {c : Char} (member : c ∈ text)
    (solid : isBlank c = false) : ∃ word ∈ words text, c ∈ word := by
  have kept : c ∈ (words text).flatten := by
    rw [flatten_words]
    exact List.mem_filter.mpr ⟨member, by rw [solid]; rfl⟩
  exact List.mem_flatten.mp kept

theorem trim_eq_nil_iff {text : List Char} : trim text = [] ↔ words text = [] := by
  constructor
  · intro empty
    rw [← words_trim, empty]
    rfl
  · intro none
    cases left : trim text with
    | nil => rfl
    | cons c rest =>
        have solid : isBlank c = false := isBlank_head?_trim (by rw [left]; rfl)
        have member : c ∈ trim text := left ▸ List.mem_cons_self
        obtain ⟨word, among, _⟩ := exists_word_of_mem member solid
        rw [words_trim, none] at among
        contradiction

/-! ## Places of words -/

/-- Every word has its place in the text. -/
theorem exists_append_of_words_eq {text word : List Char} {before after : List (List Char)}
    (cut : words text = before ++ word :: after) :
    ∃ left right, text = left ++ (word ++ right) ∧ words left = before ∧ words right = after := by
  induction text using cut_induction isBlank generalizing before with
  | solid text solid =>
      by_cases empty : text = []
      · rw [empty] at cut
        exact absurd (cut.symm.trans (by rfl : words [] = [])) (by simp)
      · rw [words_of_solid empty solid] at cut
        obtain ⟨rfl, single⟩ | ⟨_, none⟩ := List.append_eq_singleton_iff.mp cut.symm
        · obtain ⟨rfl, rfl⟩ := List.cons.inj single
          exact ⟨[], [], by simp, rfl, rfl⟩
        · contradiction
  | cut start c rest solid blank ih =>
      rw [words_append_cons blank] at cut
      by_cases empty : start = []
      · subst empty
        obtain ⟨left, right, rfl, leftWords, rightWords⟩ := ih cut
        exact ⟨c :: left, right, rfl, (words_cons_of_blank blank left).trans leftWords, rightWords⟩
      · rw [words_of_solid empty solid, List.singleton_append] at cut
        rcases List.cons_eq_append_iff.mp cut with ⟨rfl, first⟩ | ⟨earlier, rfl, later⟩
        · obtain ⟨rfl, rfl⟩ := List.cons.inj first
          exact ⟨[], c :: rest, rfl, rfl, words_cons_of_blank blank rest⟩
        · obtain ⟨left, right, rfl, leftWords, rightWords⟩ := ih later
          refine ⟨start ++ c :: left, right, by simp, ?_, rightWords⟩
          rw [words_append_cons blank, words_of_solid empty solid, leftWords, List.singleton_append]

theorem contains_nil_of_ne_nil {pattern : List Char} (nonempty : pattern ≠ []) :
    contains pattern [] = false := by
  rw [← Bool.not_eq_true, contains_iff_isInfix, List.infix_nil]
  exact nonempty

theorem ne_nil_of_contains {pattern text : List Char} (nonempty : pattern ≠ [])
    (within : contains pattern text = true) : text ≠ [] := by
  rintro rfl
  rw [contains_nil_of_ne_nil nonempty] at within
  contradiction

/-- A pattern without blanks occurs in one of the words. -/
theorem contains_iff_exists_word {pattern : List Char} (nonempty : pattern ≠ [])
    (solid : ∀ c ∈ pattern, isBlank c = false) {text : List Char} :
    contains pattern text = true ↔ ∃ word ∈ words text, contains pattern word = true := by
  constructor
  · intro within
    induction text using cut_induction isBlank with
    | solid text textSolid =>
        rw [words_of_solid (ne_nil_of_contains nonempty within) textSolid]
        exact ⟨text, List.mem_singleton_self text, within⟩
    | cut start c rest startSolid blank ih =>
        have absent : c ∉ pattern := by
          intro member
          rw [solid c member] at blank
          contradiction
        rw [contains_append_cons absent, Bool.or_eq_true] at within
        rw [words_append_cons blank]
        rcases within with inStart | inRest
        · rw [words_of_solid (ne_nil_of_contains nonempty inStart) startSolid]
          exact ⟨start, List.mem_append_left _ (List.mem_singleton_self start), inStart⟩
        · obtain ⟨word, among, inWord⟩ := ih inRest
          exact ⟨word, List.mem_append_right _ among, inWord⟩
  · rintro ⟨word, among, inWord⟩
    obtain ⟨before, after, cut⟩ := List.append_of_mem among
    obtain ⟨left, right, rfl, _, _⟩ := exists_append_of_words_eq cut
    rw [contains_iff_isInfix] at inWord ⊢
    exact inWord.trans ⟨left, right, by simp⟩

end ApiTrace.Text
