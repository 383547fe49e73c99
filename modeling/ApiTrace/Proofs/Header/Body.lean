import ApiTrace.Proofs.Header.TrailingComment
import ApiTrace.Text.WordClass
import Mathlib.Data.List.TakeWhile

/-!
# Where bodies lie

A body lies between braces that are looked for in whole lines, comments included. A text behind a
line therefore moves a body only if it brings in the name of the structure or a brace: a closing
brace inside the body ends it there, and an opening one matters to a structure that is mentioned but
not yet opened.
-/

namespace ApiTrace

namespace Header

variable {header : Header} {start hit index : Nat} {p : List Char → Bool} {more : List Char}

/-! ## First lines -/

theorem findFrom?_eq_some_iff :
    header.findFrom? start p = some hit ↔
      start ≤ hit ∧ (∃ text, header.lines[hit]? = some text ∧ p text = true) ∧
        ∀ place text, start ≤ place → place < hit → header.lines[place]? = some text →
          p text = false := by
  rw [findFrom?, Option.map_eq_some_iff]
  constructor
  · rintro ⟨place, found, rfl⟩
    obtain ⟨inside, holds, before⟩ := List.findIdx?_eq_some_iff_getElem.mp found
    refine ⟨Nat.le_add_right start place, ⟨_, ?_, holds⟩, ?_⟩
    · rw [← List.getElem?_drop, List.getElem?_eq_getElem inside]
    · intro other text reached earlier original
      obtain ⟨offset, rfl⟩ := Nat.exists_eq_add_of_le reached
      rw [← List.getElem?_drop] at original
      obtain ⟨_, rfl⟩ := List.getElem?_eq_some_iff.mp original
      exact (Bool.not_eq_true _).mp (before offset (Nat.lt_of_add_lt_add_left earlier))
  · rintro ⟨reached, ⟨text, original, holds⟩, before⟩
    obtain ⟨offset, rfl⟩ := Nat.exists_eq_add_of_le reached
    rw [← List.getElem?_drop] at original
    obtain ⟨inside, rfl⟩ := List.getElem?_eq_some_iff.mp original
    refine ⟨offset, List.findIdx?_eq_some_iff_getElem.mpr ⟨inside, holds, ?_⟩, rfl⟩
    intro other earlier
    rw [Bool.not_eq_true]
    apply before (start + other) _ (Nat.le_add_right start other)
      (Nat.add_lt_add_left earlier start)
    rw [← List.getElem?_drop, List.getElem?_eq_getElem (Nat.lt_trans earlier inside)]

theorem findFrom?_eq_none_iff :
    header.findFrom? start p = none ↔
      ∀ place text, start ≤ place → header.lines[place]? = some text → p text = false := by
  rw [findFrom?, Option.map_eq_none_iff, List.findIdx?_eq_none_iff]
  constructor
  · intro missing place text reached original
    obtain ⟨offset, rfl⟩ := Nat.exists_eq_add_of_le reached
    rw [← List.getElem?_drop] at original
    exact missing text (List.mem_of_getElem? original)
  · intro missing text member
    obtain ⟨offset, original⟩ := List.mem_iff_getElem?.mp member
    rw [List.getElem?_drop] at original
    exact missing (start + offset) text (Nat.le_add_right start offset) original

theorem find?_eq_findFrom? (header : Header) (needle : List Char) :
    header.find? needle = header.findFrom? 0 (Text.contains needle) := by
  rw [findFrom?, List.drop_zero, find?]
  simp

theorem exists_of_getElem?_extend {place : Nat} {text : List Char}
    (found : (header.extend index more).lines[place]? = some text) :
    ∃ line, header.lines[place]? = some line ∧
      text = if index = place then line ++ more else line := by
  rw [getElem?_lines_extend] at found
  obtain ⟨line, original, same⟩ := Option.map_eq_some_iff.mp found
  exact ⟨line, original, same.symm⟩

/-- The first line stays the first, unless the line that goes on becomes one before it. -/
theorem findFrom?_extend (gain : ∀ text, p text = true → p (text ++ more) = true)
    (fresh : start ≤ index →
      (∀ place text, start ≤ place → place ≤ index → header.lines[place]? = some text →
        p text = false) →
      ∀ text, header.lines[index]? = some text → p (text ++ more) = false) :
    (header.extend index more).findFrom? start p = header.findFrom? start p := by
  cases first : header.findFrom? start p with
  | none =>
      rw [findFrom?_eq_none_iff] at first ⊢
      intro place text reached found
      obtain ⟨line, original, rfl⟩ := exists_of_getElem?_extend found
      split
      · rename_i here
        subst here
        exact fresh reached (fun other text from_ _ => first other text from_) line original
      · exact first place line reached original
  | some hit =>
      rw [findFrom?_eq_some_iff] at first ⊢
      obtain ⟨reached, ⟨line, original, holds⟩, before⟩ := first
      refine ⟨reached, ⟨if index = hit then line ++ more else line, ?_, ?_⟩, ?_⟩
      · rw [getElem?_lines_extend, original, Option.map_some]
      · split
        · exact gain line holds
        · exact holds
      · intro place text placeReached earlier found
        obtain ⟨line, original, rfl⟩ := exists_of_getElem?_extend found
        split
        · rename_i here
          subst here
          apply fresh placeReached _ line original
          intro other text otherReached upTo
          exact before other text otherReached (Nat.lt_of_le_of_lt upTo earlier)
        · exact before place line placeReached earlier original

/-- The first line stays the first if it does not come behind the line that goes on. -/
theorem findFrom?_extend_of_le (gain : ∀ text, p text = true → p (text ++ more) = true)
    (first : header.findFrom? start p = some hit) (early : hit ≤ index) :
    (header.extend index more).findFrom? start p = some hit := by
  rw [findFrom?_extend gain, first]
  intro _ missing
  obtain ⟨reached, ⟨text, original, holds⟩, _⟩ := findFrom?_eq_some_iff.mp first
  rw [missing hit text reached early original] at holds
  contradiction

/-- A line that becomes one before the first is the first. -/
theorem findFrom?_extend_of_lt (first : header.findFrom? start p = some hit)
    (reached : start ≤ index)
    (early : index < hit) (holds : ∀ text, p (text ++ more) = true) :
    (header.extend index more).findFrom? start p = some index := by
  obtain ⟨_, ⟨last, original, _⟩, before⟩ := findFrom?_eq_some_iff.mp first
  have inside : index < header.lines.length :=
    Nat.lt_trans early (List.getElem?_eq_some_iff.mp original).1
  refine findFrom?_eq_some_iff.mpr ⟨reached, ⟨header.lines[index] ++ more, ?_, holds _⟩, ?_⟩
  · rw [getElem?_lines_extend, List.getElem?_eq_getElem inside, Option.map_some, if_pos rfl]
  · intro place text placeReached earlier found
    obtain ⟨line, original, rfl⟩ := exists_of_getElem?_extend found
    rw [if_neg (Nat.ne_of_gt earlier)]
    exact before place line placeReached (Nat.lt_trans earlier early) original

/-! ## Bodies -/

theorem contains_brace_append {c : Char} (more text : List Char) (opened : text.contains c = true) :
    (text ++ more).contains c = true := by
  rw [List.contains_append, opened, Bool.true_or]

theorem closesOnOpeningLine_append {text : List Char} (opened : '\x7b' ∈ text)
    (closed : '\x7d' ∉ more) : closesOnOpeningLine (text ++ more) = closesOnOpeningLine text := by
  have kept : ¬(text.dropWhile fun c => c != '\x7b').isEmpty := by
    rw [List.isEmpty_iff, List.dropWhile_eq_nil_iff]
    exact fun free => absurd (free _ opened) (by decide)
  rw [closesOnOpeningLine, List.dropWhile_append, if_neg kept, List.contains_append,
    closesOnOpeningLine]
  simp [closed]

/-- A body with lines in it, by its braces. -/
theorem exists_of_bodyFrom {line : Nat} {name : String} {span : Span}
    (found : header.bodyFrom line name = .ok span) (nonempty : span.start < span.stop) :
    ∃ opening, span.start = opening + 1 ∧
      header.findFrom? line (fun text => text.contains '\x7b') = some opening ∧
      (header.lines[opening]?.map closesOnOpeningLine).getD false = false ∧
      header.findFrom? (opening + 1) (fun text => text.contains '\x7d') = some span.stop := by
  unfold bodyFrom at found
  split at found
  · contradiction
  · rename_i opening opens
    split at found
    · cases found
      exact absurd nonempty (Nat.lt_irrefl _)
    · rename_i apart
      split at found
      · contradiction
      · rename_i closing closes
        cases found
        exact ⟨opening, rfl, opens, (Bool.not_eq_true _).mp apart, closes⟩

/-- The first line with a brace stays the first, unless the brace comes in before it. -/
theorem findFrom?_brace_extend {brace : Char}
    (early : brace ∈ more → start ≤ index →
      ∃ place text, start ≤ place ∧ place ≤ index ∧ header.lines[place]? = some text ∧
        brace ∈ text) :
    (header.extend index more).findFrom? start (fun text => text.contains brace) =
      header.findFrom? start fun text => text.contains brace := by
  apply findFrom?_extend (contains_brace_append more)
  intro reached missing text original
  rw [List.contains_append, missing index text reached (Nat.le_refl index) original, Bool.false_or,
    ← Bool.not_eq_true, List.contains_iff_mem]
  intro inMore
  obtain ⟨place, first, placeReached, upTo, found, inFirst⟩ := early inMore reached
  have without := missing place first placeReached upTo found
  rw [← Bool.not_eq_true, List.contains_iff_mem] at without
  exact without inFirst

/-- A text without a closing brace moves no body that is opened before or brings in no brace. -/
theorem bodyFrom_extend {line : Nat} (closed : '\x7d' ∉ more)
    (opened : '\x7b' ∈ more → line ≤ index →
      ∃ place text, line ≤ place ∧ place ≤ index ∧ header.lines[place]? = some text ∧ '\x7b' ∈ text)
    (name : String) :
    (header.extend index more).bodyFrom line name = header.bodyFrom line name := by
  rw [bodyFrom, bodyFrom, findFrom?_brace_extend opened]
  cases first : header.findFrom? line fun text => text.contains '\x7b' with
  | none => rfl
  | some opening =>
      obtain ⟨_, ⟨text, original, holds⟩, _⟩ := findFrom?_eq_some_iff.mp first
      have same : (header.extend index more).lines[opening]?.map closesOnOpeningLine =
          header.lines[opening]?.map closesOnOpeningLine := by
        rw [getElem?_lines_extend, original, Option.map_some, Option.map_some]
        split
        · rw [closesOnOpeningLine_append (List.contains_iff_mem.mp holds) closed, Option.map_some]
        · rfl
      dsimp only
      rw [same, findFrom?_brace_extend fun inMore => absurd inMore closed]
      rfl

section Inside

variable {line : Nat} {name : String} {span : Span}

/-- A text inside a body does not open it again. -/
theorem bodyFrom_extend_of_inside (found : header.bodyFrom line name = .ok span)
    (reached : span.start ≤ index) (inside : index < span.stop) (closed : '\x7d' ∉ more) :
    (header.extend index more).bodyFrom line name = .ok span := by
  obtain ⟨opening, start, first, _, _⟩ :=
    exists_of_bodyFrom found (Nat.lt_of_le_of_lt reached inside)
  obtain ⟨lineReached, ⟨text, original, holds⟩, _⟩ := findFrom?_eq_some_iff.mp first
  rw [bodyFrom_extend closed, found]
  intro _ _
  exact ⟨opening, text, lineReached, by omega, original, List.contains_iff_mem.mp holds⟩

/-- A closing brace inside a body ends it. -/
theorem bodyFrom_extend_of_closing (found : header.bodyFrom line name = .ok span)
    (reached : span.start ≤ index) (inside : index < span.stop) (closing : '\x7d' ∈ more) :
    (header.extend index more).bodyFrom line name = .ok ⟨span.start, index⟩ := by
  obtain ⟨opening, start, first, apart, last⟩ :=
    exists_of_bodyFrom found (Nat.lt_of_le_of_lt reached inside)
  have opens : (header.extend index more).findFrom? line (fun text => text.contains '\x7b') =
      some opening := findFrom?_extend_of_le (contains_brace_append more) first (by omega)
  have closes : (header.extend index more).findFrom? (opening + 1)
      (fun text => text.contains '\x7d') = some index :=
    findFrom?_extend_of_lt last (by omega) inside fun text => by
      rw [List.contains_iff_mem]
      exact List.mem_append_right text closing
  have unmoved : (header.extend index more).lines[opening]? = header.lines[opening]? := by
    have elsewhere : index ≠ opening := by omega
    simp only [getElem?_lines_extend, elsewhere, if_false, Option.map_id_fun', id_eq]
  rw [bodyFrom, opens]
  dsimp only
  rw [unmoved, apart, closes, start]
  rfl

end Inside

/-! ## Bodies of names -/

theorem exists_of_body {struct : String} {span : Span} (found : header.body struct = .ok span) :
    ∃ mention, header.find? struct.toList = some mention ∧
      header.bodyFrom mention struct = .ok span := by
  unfold body at found
  split at found
  · contradiction
  · rename_i mention mentioned
    exact ⟨mention, mentioned, found⟩

theorem contains_name_append (name more text : List Char)
    (mentioned : Text.contains name text = true) :
    Text.contains name (text ++ more) = true := by
  rw [Text.contains_iff_isInfix] at mentioned ⊢
  exact mentioned.trans (List.prefix_append text more).isInfix

section Names

variable {struct : String} {span : Span}

/-- The first mention stays the first, unless the name comes in before it. -/
theorem find?_extend
    (unmentioned : ∀ text,
      Text.contains struct.toList (text ++ more) = Text.contains struct.toList text) :
    (header.extend index more).find? struct.toList = header.find? struct.toList := by
  rw [find?_eq_findFrom?, find?_eq_findFrom?]
  apply findFrom?_extend (contains_name_append _ more)
  intro reached missing text original
  rw [unmentioned, missing index text reached (Nat.le_refl index) original]

/-- What is put behind lines of a body does not come before the name. -/
theorem exists_mention_of_inside (found : header.body struct = .ok span)
    (reached : span.start ≤ index)
    (inside : index < span.stop) (more : List Char) :
    ∃ mention, (header.extend index more).find? struct.toList = some mention ∧
      header.bodyFrom mention struct = .ok span := by
  obtain ⟨mention, mentioned, placed⟩ := exists_of_body found
  obtain ⟨opening, start, first, _, _⟩ :=
    exists_of_bodyFrom placed (Nat.lt_of_le_of_lt reached inside)
  have before : mention ≤ opening := (findFrom?_eq_some_iff.mp first).1
  refine ⟨mention, ?_, placed⟩
  rw [find?_eq_findFrom?] at mentioned ⊢
  exact findFrom?_extend_of_le (contains_name_append _ more) mentioned (by omega)

theorem body_extend_of_inside (found : header.body struct = .ok span) (reached : span.start ≤ index)
    (inside : index < span.stop) (closed : '\x7d' ∉ more) :
    (header.extend index more).body struct = .ok span := by
  obtain ⟨mention, mentioned, placed⟩ := exists_mention_of_inside found reached inside more
  rw [body, mentioned]
  exact bodyFrom_extend_of_inside placed reached inside closed

theorem body_extend_of_closing (found : header.body struct = .ok span)
    (reached : span.start ≤ index)
    (inside : index < span.stop) (closing : '\x7d' ∈ more) :
    (header.extend index more).body struct = .ok ⟨span.start, index⟩ := by
  obtain ⟨mention, mentioned, placed⟩ := exists_mention_of_inside found reached inside more
  rw [body, mentioned]
  exact bodyFrom_extend_of_closing placed reached inside closing

/-- A structure whose first mention stands at or before a line, with no opening brace up to that
line. -/
structure Awaits (header : Header) (struct : String) (index mention : Nat) : Prop where
  mentioned : header.find? struct.toList = some mention
  before : mention ≤ index
  unopened : ∀ place text, mention ≤ place → place ≤ index → header.lines[place]? = some text →
    '\x7b' ∉ text

/-- A text that brings in neither the name nor a brace that matters moves no body. -/
theorem body_extend
    (unmentioned : ∀ text,
      Text.contains struct.toList (text ++ more) = Text.contains struct.toList text)
    (closed : '\x7d' ∉ more)
    (opened : '\x7b' ∈ more → ∀ mention, ¬header.Awaits struct index mention) :
    (header.extend index more).body struct = header.body struct := by
  rw [body, body, find?_extend unmentioned]
  cases mentioned : header.find? struct.toList with
  | none => rfl
  | some mention =>
      apply bodyFrom_extend closed
      intro inMore before
      by_contra unopened
      apply opened inMore mention
      refine ⟨mentioned, before, fun place text reached upTo original inText => unopened ?_⟩
      exact ⟨place, text, reached, upTo, original, inText⟩

end Names

/-- A comment mentions a name in the line only where it does so itself. -/
theorem contains_append_trailing {name comment : List Char}
    (word : ∀ c ∈ name, Text.isWordChar c = true) (unmentioned : Text.contains name comment = false)
    (text : List Char) :
    Text.contains name (text ++ trailing comment) = Text.contains name text := by
  have blank : ' ' ∉ name := fun member => absurd (word _ member) (by decide)
  have slash : '/' ∉ name := fun member => absurd (word _ member) (by decide)
  have marks : trailing comment = ' ' :: ([] ++ '/' :: ([] ++ '/' :: ([] ++ ' ' :: comment))) := rfl
  have nonempty : Text.contains name [] = false :=
    Text.contains_eq_false_of_isInfix (List.nil_infix) unmentioned
  rw [marks, Text.contains_append_cons blank, Text.contains_append_cons slash,
    Text.contains_append_cons slash, Text.contains_append_cons blank, unmentioned, nonempty]
  simp

end Header

end ApiTrace
