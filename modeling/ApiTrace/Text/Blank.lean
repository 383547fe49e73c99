/-!
# Blank characters

A blank is a character with the White_Space property. This module holds the class, trimming at
either end of a text, and the split of a text into its blank-separated words.
-/

namespace ApiTrace.Text

/-- The characters with the White_Space property. -/
def isBlank (c : Char) : Bool :=
  let code := c.toNat
  (9 ≤ code && code ≤ 13) || code == 0x20 || code == 0x85 || code == 0xA0 || code == 0x1680 ||
    (0x2000 ≤ code && code ≤ 0x200A) || code == 0x2028 || code == 0x2029 || code == 0x202F ||
    code == 0x205F || code == 0x3000

/-- Drop the longest run at the end whose characters all satisfy `p`. -/
def dropEndWhile (p : Char → Bool) (text : List Char) : List Char :=
  (text.reverse.dropWhile p).reverse

theorem dropEndWhile_eq_self {p : Char → Bool} {text : List Char} (kept : ∀ c ∈ text, p c = false) :
    dropEndWhile p text = text := by
  cases reversed : text.reverse with
  | nil => rw [List.reverse_eq_nil_iff.1 reversed]; rfl
  | cons c rest =>
    have member : c ∈ text := List.mem_reverse.1 (reversed ▸ List.mem_cons_self)
    rw [dropEndWhile, reversed, List.dropWhile_cons_of_neg (by simp [kept c member]), ← reversed,
      List.reverse_reverse]

theorem dropEndWhile_append {p : Char → Bool} {last : List Char} (text : List Char)
    (dropped : ∀ c ∈ last, p c = true) :
    dropEndWhile p (text ++ last) = dropEndWhile p text := by
  rw [dropEndWhile, List.reverse_append, List.dropWhile_append_of_pos, dropEndWhile]
  intro c member
  exact dropped c (List.mem_reverse.1 member)

/-- Drop the blanks at the start. -/
def trimStart (text : List Char) : List Char :=
  text.dropWhile isBlank

/-- Drop the blanks at the end. -/
def trimEnd (text : List Char) : List Char :=
  dropEndWhile isBlank text

/-- Drop the blanks at both ends. -/
def trim (text : List Char) : List Char :=
  trimEnd (trimStart text)

theorem trim_append {blanks : List Char} (blank : ∀ c ∈ blanks, isBlank c = true)
    (text : List Char) : trim (blanks ++ text) = trim text := by
  rw [trim, trimStart, List.dropWhile_append_of_pos blank, trim, trimStart]

theorem trim_append_right {blanks : List Char} (blank : ∀ c ∈ blanks, isBlank c = true)
    (text : List Char) : trim (text ++ blanks) = trim text := by
  rw [trim, trim, trimStart, trimStart, List.dropWhile_append]
  split
  · rename_i empty
    rw [List.isEmpty_iff.mp empty, ← List.append_nil blanks, List.dropWhile_append_of_pos blank]
    rfl
  · exact dropEndWhile_append _ blank

/-- Trimming leaves a text alone that neither starts nor ends with a blank. -/
theorem trim_eq_self_of_ends {text : List Char} (first : ∀ c ∈ text.head?, isBlank c = false)
    (last : ∀ c ∈ text.getLast?, isBlank c = false) : trim text = text := by
  have start : trimStart text = text := by
    cases text with
    | nil => rfl
    | cons c rest => exact List.dropWhile_cons_of_neg (by simp [first c rfl])
  have stop : trimEnd text = text := by
    rw [List.getLast?_eq_head?_reverse] at last
    rw [trimEnd, dropEndWhile]
    cases reversed : text.reverse with
    | nil => exact (List.reverse_eq_nil_iff.1 reversed).symm
    | cons c rest =>
      have solid : isBlank c = false := last c (by rw [reversed]; rfl)
      rw [List.dropWhile_cons_of_neg (by simp [solid]), ← reversed, List.reverse_reverse]
  rw [trim, start, stop]

/-- Trimming leaves a text without blanks alone. -/
theorem trim_eq_self {text : List Char} (solid : ∀ c ∈ text, isBlank c = false) :
    trim text = text :=
  trim_eq_self_of_ends (fun c first => solid c (List.mem_of_mem_head? first))
    fun c last => solid c (List.mem_of_mem_getLast? last)

theorem trimStart_isSuffix (text : List Char) : trimStart text <:+ text :=
  List.dropWhile_suffix isBlank

theorem trimEnd_isPrefix (text : List Char) : trimEnd text <+: text := by
  rw [trimEnd, dropEndWhile, ← List.reverse_suffix, List.reverse_reverse]
  exact List.dropWhile_suffix isBlank

/-- What is left is a part of the text. -/
theorem trim_isInfix (text : List Char) : trim text <:+: text :=
  (trimEnd_isPrefix _).isInfix.trans (trimStart_isSuffix text).isInfix

theorem isBlank_head?_trimStart {text : List Char} {c : Char} (first : c ∈ (trimStart text).head?) :
    isBlank c = false := by
  have stopped := List.head?_dropWhile_not isBlank text
  rw [trimStart] at first
  rw [first] at stopped
  exact stopped

/-- The first character that is left is no blank. -/
theorem isBlank_head?_trim {text : List Char} {c : Char} (first : c ∈ (trim text).head?) :
    isBlank c = false := by
  obtain ⟨rest, split⟩ := trimEnd_isPrefix (trimStart text)
  have same : (trimStart text).head? = some c := by
    rw [← split, List.head?_append, show (trimEnd (trimStart text)).head? = some c from first]
    rfl
  exact isBlank_head?_trimStart same

/-- The last character that is left is no blank. -/
theorem isBlank_getLast?_trim {text : List Char} {c : Char} (last : c ∈ (trim text).getLast?) :
    isBlank c = false := by
  have stopped := List.head?_dropWhile_not isBlank (trimStart text).reverse
  rw [trim, trimEnd, dropEndWhile, List.getLast?_reverse] at last
  rw [last] at stopped
  exact stopped

@[simp]
theorem trim_trim (text : List Char) : trim (trim text) = trim text :=
  trim_eq_self_of_ends (fun _ => isBlank_head?_trim) fun _ => isBlank_getLast?_trim

/-- A text that ends in no blank keeps its end. -/
theorem getLast?_trim {text : List Char} {c : Char} (last : text.getLast? = some c)
    (solid : isBlank c = false) : (trim text).getLast? = some c := by
  obtain ⟨before, rfl⟩ := List.getLast?_eq_some_iff.1 last
  have started : ∃ rest, trimStart (before ++ [c]) = rest ++ [c] := by
    rw [trimStart, List.dropWhile_append]
    split
    · exact ⟨[], List.dropWhile_cons_of_neg (by simp [solid])⟩
    · exact ⟨_, rfl⟩
  obtain ⟨rest, started⟩ := started
  rw [trim, started, trimEnd, dropEndWhile, List.reverse_concat,
    List.dropWhile_cons_of_neg (by simp [solid]), List.reverse_cons, List.reverse_reverse,
    List.getLast?_concat]

/-- Trimming keeps what the text starts with, if there is no blank in it. -/
theorem exists_trim_append {start : List Char} (nonempty : start ≠ [])
    (solid : ∀ c ∈ start, isBlank c = false) (text : List Char) :
    ∃ rest, trim (start ++ text) = start ++ rest := by
  have started : trimStart (start ++ text) = start ++ text := by
    cases start with
    | nil => contradiction
    | cons c start => exact List.dropWhile_cons_of_neg (by simp [solid c List.mem_cons_self])
  have kept : (start.reverse.dropWhile isBlank).reverse = start := dropEndWhile_eq_self solid
  rw [trim, started, trimEnd, dropEndWhile, List.reverse_append, List.dropWhile_append]
  split
  · exact ⟨[], by rw [kept, List.append_nil]⟩
  · exact ⟨_, by rw [List.reverse_append, List.reverse_reverse]⟩

/-- The maximal runs of characters that are not blank, in order. -/
def words (text : List Char) : List (List Char) :=
  (text.splitOnP isBlank).filter (fun word => !word.isEmpty)

theorem subset_of_mem_splitOnP {p : Char → Bool} {text part : List Char}
    (member : part ∈ text.splitOnP p) : part ⊆ text := by
  induction text generalizing part with
  | nil =>
      rw [List.splitOnP_nil] at member
      rw [List.mem_singleton.mp member]
      exact List.nil_subset _
  | cons c text ih =>
      rw [List.splitOnP_cons_eq_if_modifyHead] at member
      split at member
      · rcases List.mem_cons.mp member with rfl | member
        · exact List.nil_subset _
        · exact List.subset_cons_of_subset c (ih member)
      · cases parts : text.splitOnP p with
        | nil => exact absurd parts (List.splitOnP_ne_nil p text)
        | cons first rest =>
            rw [parts, List.modifyHead_cons] at member
            rw [parts] at ih
            rcases List.mem_cons.mp member with rfl | member
            · exact List.cons_subset_cons c (ih List.mem_cons_self)
            · exact List.subset_cons_of_subset c (ih (List.mem_cons_of_mem _ member))

/-- A word is a part of its text. -/
theorem subset_of_mem_words {text word : List Char} (member : word ∈ words text) : word ⊆ text :=
  subset_of_mem_splitOnP (List.mem_filter.mp member).1

end ApiTrace.Text
