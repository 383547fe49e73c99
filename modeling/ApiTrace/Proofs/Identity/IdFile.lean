import ApiTrace.Header.VendorNumbers
import ApiTrace.Identity.IdFile
import ApiTrace.Proofs.Identity.IdMap
import Mathlib.Data.List.TakeWhile

/-!
# Reading entry lines

An entry is written as `name_id=N,` on a line of its own. A line of this form is read back as the
name and the number it was written for, whatever blanks stand around it, so the lines of a list of
pairs are read as the map of these pairs.
-/

namespace ApiTrace.IdMap

/-- A name with its number that can stand on an entry line. -/
structure Legible (name : String) (number : Nat) : Prop where
  nonempty : name ≠ ""
  plain : name.toList.all Header.isNameChar = true
  /-- The enumerator is not taken for the line after the last entry. -/
  unmarked : Text.contains enumMark (name ++ "_id").toList = false
  within : number ≤ Text.maxWord

/-- A name with its number that can stand on an entry line, but whose enumerator may be taken for
the line after the last entry. -/
structure Spelled (name : String) (number : Nat) : Prop where
  nonempty : name ≠ ""
  plain : name.toList.all Header.isNameChar = true
  within : number ≤ Text.maxWord

theorem Legible.spelled {name : String} {number : Nat} (legible : Legible name number) :
    Spelled name number :=
  ⟨legible.nonempty, legible.plain, legible.within⟩

instance (name : String) (number : Nat) : Decidable (Legible name number) :=
  decidable_of_iff
    (name ≠ "" ∧ name.toList.all Header.isNameChar = true ∧
      Text.contains enumMark (name ++ "_id").toList = false ∧ number ≤ Text.maxWord)
    ⟨fun ⟨nonempty, plain, unmarked, within⟩ => ⟨nonempty, plain, unmarked, within⟩,
      fun ⟨nonempty, plain, unmarked, within⟩ => ⟨nonempty, plain, unmarked, within⟩⟩

/-- The line of an entry, without blanks around it. -/
def entryText (pair : String × Nat) : List Char :=
  (pair.1 ++ "_id").toList ++ '=' :: (Text.decimal pair.2 ++ [','])

/-- The line of an entry. -/
def entryLine (pair : String × Nat) : List Char :=
  List.replicate 4 ' ' ++ entryText pair

/-! ## Characters of an entry line -/

theorem toNat_of_isNameChar {c : Char} (plain : Header.isNameChar c = true) :
    (65 ≤ c.toNat ∧ c.toNat ≤ 90) ∨ (97 ≤ c.toNat ∧ c.toNat ≤ 122) ∨
      (48 ≤ c.toNat ∧ c.toNat ≤ 57) ∨ c = '_' := by
  rw [Header.isNameChar, Bool.or_eq_true, beq_iff_eq] at plain
  rcases plain with alphanumeric | underscore
  · delta Char.isAlphanum Char.isAlpha Char.isUpper Char.isLower Char.isDigit at alphanumeric
    simp only [Bool.or_eq_true, Bool.and_eq_true, decide_eq_true_eq, ge_iff_le,
      UInt32.le_iff_toNat_le] at alphanumeric
    change ((65 ≤ c.toNat ∧ c.toNat ≤ 90) ∨ (97 ≤ c.toNat ∧ c.toNat ≤ 122)) ∨
      (48 ≤ c.toNat ∧ c.toNat ≤ 57) at alphanumeric
    omega
  · exact .inr (.inr (.inr underscore))

theorem isBlank_of_isNameChar {c : Char} (plain : Header.isNameChar c = true) :
    Text.isBlank c = false := by
  rcases toNat_of_isNameChar plain with upper | lower | digit | rfl
  case inr.inr.inr => decide
  all_goals
    simp only [Text.isBlank, Bool.or_eq_false_iff, Bool.and_eq_false_iff, decide_eq_false_iff_not,
      beq_eq_false_iff_ne]
    omega

theorem isNameChar_of_mem_decimal {number : Nat} {c : Char} (member : c ∈ Text.decimal number) :
    Header.isNameChar c = true := by
  have digits : ∀ value < 10, Header.isNameChar (Text.digit value) = true := by decide
  obtain ⟨value, small, rfl⟩ := Text.exists_digit_of_mem_decimal member
  exact digits value small

/-- Whether the enumerator of an entry is taken for the line after the last entry. -/
def closesEarly (pair : String × Nat) : Bool :=
  Text.contains enumMark (pair.1 ++ "_id").toList

namespace Spelled

variable {pair : String × Nat} (spelled : Spelled pair.1 pair.2)
include spelled

theorem plain_enumerator : (pair.1 ++ "_id").toList.all Header.isNameChar = true := by
  have ending : "_id".toList.all Header.isNameChar = true := by decide
  rw [String.toList_append, List.all_append, spelled.plain, ending]
  rfl

theorem isNameChar_of_mem_enumerator {c : Char} (member : c ∈ (pair.1 ++ "_id").toList) :
    Header.isNameChar c = true :=
  List.all_eq_true.mp spelled.plain_enumerator c member

theorem exists_enumerator_eq_cons : ∃ c rest, (pair.1 ++ "_id").toList = c :: rest ∧
    Header.isNameChar c = true := by
  cases enumerator : (pair.1 ++ "_id").toList with
  | nil => simp at enumerator
  | cons c rest =>
      exact ⟨c, rest, rfl, spelled.isNameChar_of_mem_enumerator (enumerator ▸ List.mem_cons_self)⟩

/-- No blank stands inside an entry line. -/
theorem isBlank_eq_false {c : Char} (member : c ∈ entryText pair) : Text.isBlank c = false := by
  rw [entryText, List.mem_append, List.mem_cons, List.mem_append, List.mem_singleton] at member
  rcases member with member | rfl | member | rfl
  · exact isBlank_of_isNameChar (spelled.isNameChar_of_mem_enumerator member)
  · decide
  · exact isBlank_of_isNameChar (isNameChar_of_mem_decimal member)
  · decide

theorem closes_entryText : closes (entryText pair) = closesEarly pair := by
  obtain ⟨c, rest, enumerator, plain⟩ := spelled.exists_enumerator_eq_cons
  have opens : c ≠ '\x7d' := by
    rintro rfl
    exact absurd plain (by decide)
  have numeral : Text.contains enumMark (Text.decimal pair.2 ++ [',']) = false := by
    rw [Bool.eq_false_iff, Ne, Text.contains_iff_isInfix]
    intro marked
    have underscore : '_' ∈ Text.decimal pair.2 ++ [','] := marked.subset (by decide)
    rcases List.mem_append.mp underscore with member | member
    · exact Text.underscore_not_mem_decimal pair.2 member
    · exact absurd member (by decide)
  have brace : ['\x7d'].isPrefixOf (entryText pair) = false := by
    rw [entryText, enumerator]
    simp [List.isPrefixOf, opens.symm]
  rw [closes, brace, Bool.false_or, entryText, Text.contains_append_cons (by decide), numeral,
    Bool.or_false, closesEarly]

theorem carriesNothing_entryText : carriesNothing (entryText pair) = false := by
  obtain ⟨c, rest, enumerator, plain⟩ := spelled.exists_enumerator_eq_cons
  have opens : c ≠ '/' := by
    rintro rfl
    exact absurd plain (by decide)
  rw [entryText, enumerator, carriesNothing]
  simp [List.isPrefixOf, opens.symm]

theorem splitOnce?_entryText : Text.splitOnce? ['='] (entryText pair) =
    some ((pair.1 ++ "_id").toList, Text.decimal pair.2 ++ [',']) := by
  apply Text.splitOnce?_append
  intro member
  exact absurd (spelled.isNameChar_of_mem_enumerator member) (by decide)

/-- Only the ending of the enumerator is taken off, also when the name ends alike. -/
theorem dropEnd?_enumerator :
    Text.dropEnd? "_id".toList (Text.trim (pair.1 ++ "_id").toList) = some pair.1.toList := by
  have tight : Text.trim (pair.1 ++ "_id").toList = pair.1.toList ++ "_id".toList := by
    rw [Text.trim_eq_self, String.toList_append]
    intro c member
    exact isBlank_of_isNameChar (spelled.isNameChar_of_mem_enumerator member)
  rw [tight, Text.dropEnd?_append]

theorem readWord?_numeral :
    Text.readWord? (Text.trim (Text.dropEndWhile (· == ',')
      (Text.trim (Text.decimal pair.2 ++ [','])))) = some pair.2 := by
  have numeral : ∀ c ∈ Text.decimal pair.2, Text.isBlank c = false := fun c member =>
    isBlank_of_isNameChar (isNameChar_of_mem_decimal member)
  have right : Text.trim (Text.decimal pair.2 ++ [',']) = Text.decimal pair.2 ++ [','] := by
    apply Text.trim_eq_self
    intro c member
    apply spelled.isBlank_eq_false
    exact List.mem_append_right _ (List.mem_cons_of_mem '=' member)
  have comma : ∀ c ∈ [','], (c == ',') = true := List.forall_mem_singleton.mpr rfl
  have digits : ∀ c ∈ Text.decimal pair.2, (c == ',') = false := by
    intro c member
    rw [beq_eq_false_iff_ne]
    rintro rfl
    exact absurd (isNameChar_of_mem_decimal member) (by decide)
  rw [right, Text.dropEndWhile_append _ comma, Text.dropEndWhile_eq_self digits,
    Text.trim_eq_self numeral, Text.readWord?_decimal spelled.within]

/-- An entry line reads back. -/
theorem read_entryText : readEntry? (entryText pair) = some pair := by
  have named : pair.1.toList.isEmpty = false := by
    simpa using spelled.nonempty
  unfold readEntry?
  rw [spelled.splitOnce?_entryText]
  simp only [Option.bind_eq_bind, Option.bind_some]
  rw [spelled.dropEnd?_enumerator, Option.bind_some, spelled.readWord?_numeral, Option.bind_some,
    named, String.ofList_toList]
  rfl

/-- Reading an entry line inserts its pair, unless the line is taken for the one after the last
entry. -/
theorem readEntries_cons {file : String} {map : IdMap} {line : NumberedLine}
    {lines : List NumberedLine} (text : Text.trim line.text = entryText pair) :
    readEntries file map (line :: lines) =
      if closesEarly pair then .ok map
      else (map.insert file pair.1 pair.2).bind fun after => readEntries file after lines := by
  rw [readEntries, text, spelled.closes_entryText, spelled.carriesNothing_entryText,
    spelled.read_entryText]
  congr 1
  cases inserted : map.insert file pair.1 pair.2 with
  | error error => simp [inserted, Except.bind]
  | ok after => simp [inserted, Except.bind]

end Spelled

/-! ## Whatever was read -/

/-- Reading lines inserts pairs. -/
theorem exists_pairs_of_readEntries {file : String} {map after : IdMap}
    {lines : List NumberedLine} (ended : readEntries file map lines = .ok after) :
    ∃ pairs : List (String × Nat),
      pairs.foldlM (fun map pair => map.insert file pair.1 pair.2) map = .ok after := by
  induction lines generalizing map with
  | nil => exact ⟨[], ended⟩
  | cons numbered lines ih =>
      simp only [readEntries] at ended
      split at ended
      · exact ⟨[], ended⟩
      · split at ended
        · exact ih ended
        · split at ended
          · contradiction
          · split at ended
            · contradiction
            · rename_i name number _ _ middle inserted
              obtain ⟨pairs, rest⟩ := ih ended
              refine ⟨(name, number) :: pairs, ?_⟩
              rw [List.foldlM_cons, inserted]
              exact rest

/-- A map that was read is made of its own pairs, in any order. -/
theorem ofPairs_of_parse {file text : String} {map : IdMap} (read : parse file text = .ok map)
    {pairs : List (String × Nat)} (perm : pairs.Perm map.entries) (scope : String) :
    ofPairs scope pairs = .ok map := by
  obtain ⟨written, made⟩ : ∃ written, ofPairs file written = .ok map := by
    unfold parse ofHeader at read
    split at read
    · exact ⟨[], read⟩
    · split at read
      · contradiction
      · exact exists_pairs_of_readEntries read
  exact ofPairs_eq_ok_of_perm made ((perm_of_ofPairs made).symm.trans perm.symm) scope

theorem le_maxWord_of_entry {line : List Char} {name : String} {number : Nat}
    (read : readEntry? line = some (name, number)) : number ≤ Text.maxWord := by
  simp only [ readEntry?, Option.bind_eq_bind, Option.bind_eq_some_iff] at read
  obtain ⟨_, _, _, _, word, readWord, kept⟩ := read
  have within : word ≤ Text.maxWord := by
    unfold Text.readWord? at readWord
    simpa using (Option.filter_eq_some_iff.mp readWord).2
  split at kept <;> cases kept
  exact within

/-- The numbers of a map that was read have 32 bits. -/
theorem le_maxWord_of_readEntries {file : String} {map after : IdMap} {lines : List NumberedLine}
    (ended : readEntries file map lines = .ok after)
    (within : ∀ pair ∈ map.entries, pair.2 ≤ Text.maxWord) :
    ∀ pair ∈ after.entries, pair.2 ≤ Text.maxWord := by
  induction lines generalizing map with
  | nil =>
      cases ended
      exact within
  | cons numbered lines ih =>
      simp only [readEntries] at ended
      split at ended
      · cases ended
        exact within
      · split at ended
        · exact ih ended within
        · split at ended
          · contradiction
          · split at ended
            · contradiction
            · rename_i name number read _ middle inserted
              apply ih ended
              intro pair member
              rcases List.mem_cons.mp ((perm_of_insert inserted).mem_iff.mp member) with
                rfl | member
              · exact le_maxWord_of_entry read
              · exact within pair member

theorem le_maxWord_of_parse {file text : String} {map : IdMap} (read : parse file text = .ok map) :
    ∀ pair ∈ map.entries, pair.2 ≤ Text.maxWord := by
  unfold parse ofHeader at read
  split at read
  · cases read
    exact fun pair member => (List.not_mem_nil member).elim
  · split at read
    · contradiction
    · exact le_maxWord_of_readEntries read fun pair member => (List.not_mem_nil member).elim

/-! ## A header of entry lines -/

theorem newline_not_mem_entryLine {pair : String × Nat} (spelled : Spelled pair.1 pair.2) :
    '\n' ∉ entryLine pair := by
  rw [entryLine, List.mem_append]
  rintro (member | member)
  · exact absurd (List.eq_of_mem_replicate member) (by decide)
  · exact absurd (spelled.isBlank_eq_false member) (by decide)

theorem getLast?_entryLine (pair : String × Nat) : (entryLine pair).getLast? = some ',' := by
  rw [entryLine, entryText, ← List.cons_append, ← List.append_assoc, ← List.append_assoc,
    List.getLast?_concat]

theorem trim_entryLine {pair : String × Nat} (spelled : Spelled pair.1 pair.2) :
    Text.trim (entryLine pair) = entryText pair := by
  have blank : ∀ c ∈ List.replicate 4 ' ', Text.isBlank c = true := by
    intro c member
    rw [List.eq_of_mem_replicate member]
    decide
  rw [entryLine, Text.trim_append blank, Text.trim_eq_self]
  intro c member
  exact spelled.isBlank_eq_false member

theorem closes_brace (tail : List Char) : closes (Text.trim ([' ', '\x7d'] ++ tail)) = true := by
  have blank : ∀ c ∈ [' '], Text.isBlank c = true := List.forall_mem_singleton.mpr (by decide)
  have solid : Text.isBlank '\x7d' = false := by decide
  obtain ⟨trimmed, trimEq⟩ := Text.exists_trim_append (List.cons_ne_nil '\x7d' [])
    (List.forall_mem_singleton.mpr solid) tail
  rw [List.cons_append, ← List.singleton_append, Text.trim_append blank, trimEq, closes]
  rfl

/-- The pairs before the first whose enumerator is taken for the line after the last entry. -/
def listed (pairs : List (String × Nat)) : List (String × Nat) :=
  pairs.takeWhile fun pair => !closesEarly pair

theorem listed_eq_self {pairs : List (String × Nat)}
    (legible : ∀ pair ∈ pairs, Legible pair.1 pair.2) : listed pairs = pairs := by
  apply List.takeWhile_eq_self_iff.mpr
  intro pair member
  rw [closesEarly, (legible pair member).unmarked]
  rfl

/-- Nothing is read from a closing line on. -/
theorem readEntries_of_closed {file : String} {map : IdMap} {lines : List NumberedLine}
    (closed : ∀ line ∈ (lines.map NumberedLine.text).head?, closes (Text.trim line) = true) :
    readEntries file map lines = .ok map := by
  cases lines with
  | nil => rfl
  | cons line lines => rw [readEntries, if_pos (closed line.text rfl)]

/-- The lines of pairs are read by inserting the pairs that are listed. -/
theorem readEntries_eq_foldlM {file : String} {map : IdMap} {pairs : List (String × Nat)}
    {lines : List NumberedLine} {closing : List Char} {rest : List (List Char)}
    (spelled : ∀ pair ∈ pairs, Spelled pair.1 pair.2) (closed : closes (Text.trim closing) = true)
    (texts : lines.map NumberedLine.text = pairs.map entryLine ++ closing :: rest) :
    readEntries file map lines =
      (listed pairs).foldlM (fun map pair => map.insert file pair.1 pair.2) map := by
  induction pairs generalizing map lines with
  | nil => exact readEntries_of_closed (by simpa [texts] using closed)
  | cons pair pairs ih =>
      obtain ⟨pairSpelled, restSpelled⟩ := List.forall_mem_cons.mp spelled
      obtain ⟨line, lines, rfl, entryEq, restTexts⟩ := List.map_eq_cons_iff.mp texts
      have trimmed : Text.trim line.text = entryText pair := by
        rw [entryEq, trim_entryLine pairSpelled]
      rw [pairSpelled.readEntries_cons trimmed, listed, List.takeWhile_cons]
      by_cases early : closesEarly pair
      · rw [if_pos early, early]
        rfl
      · rw [if_neg early, if_pos (by simpa using early), List.foldlM_cons]
        congr 1
        funext after
        exact ih restSpelled restTexts

/-- Comments and blank lines are skipped. -/
theorem readEntries_of_carriesNothing {file : String} {map : IdMap} {lines : List NumberedLine}
    {idle rest : List (List Char)} {closing : List Char}
    (nothing : ∀ line ∈ idle, carriesNothing (Text.trim line) = true)
    (closed : closes (Text.trim closing) = true)
    (texts : lines.map NumberedLine.text = idle ++ closing :: rest) :
    readEntries file map lines = .ok map := by
  induction idle generalizing lines with
  | nil => exact readEntries_of_closed (by simpa [texts] using closed)
  | cons first idle ih =>
      obtain ⟨line, lines, rfl, firstEq, restTexts⟩ := List.map_eq_cons_iff.mp texts
      obtain ⟨firstNothing, restNothing⟩ := List.forall_mem_cons.mp nothing
      rw [readEntries, firstEq, if_pos firstNothing]
      split
      · rfl
      · exact ih restNothing restTexts

/-- Reading starts below the first line with the sentinel. -/
theorem exists_parse_eq {file text : String} {above below : List (List Char)} {start : List Char}
    (lines : Text.lines text.toList = above ++ start :: below)
    (unmarked : ∀ line ∈ above, Text.contains sentinel line = false)
    (marked : Text.contains sentinel start = true) :
    ∃ numbered : List NumberedLine, numbered.map NumberedLine.text = below ∧
      parse file text = readEntries file ∅ numbered := by
  let header := Header.ofText file text
  have headerLines : header.lines = above ++ start :: below := lines
  have written : (header.lines.all fun line => line.all Text.isBlank) = false := by
    have letter : 'r' ∈ start := (Text.contains_iff_isInfix.mp marked).subset (by decide)
    have blank : ¬ Text.isBlank 'r' = true := by decide
    rw [Bool.eq_false_iff]
    intro allBlank
    rw [List.all_eq_true] at allBlank
    have startBlank := allBlank start
      (headerLines ▸ List.mem_append_right above List.mem_cons_self)
    exact blank (List.all_eq_true.mp startBlank 'r' letter)
  have found : (header.numbered.dropWhile fun line => !Text.contains sentinel line.text).map
      NumberedLine.text = start :: below := by
    have dropped := List.dropWhile_map (f := NumberedLine.text)
      (p := fun line => !Text.contains sentinel line) (l := header.numbered)
    rw [Header.map_text_numbered, headerLines,
      List.dropWhile_append_of_pos (by simpa using unmarked),
      List.dropWhile_cons_of_neg (by simpa using marked)] at dropped
    exact dropped.symm
  obtain ⟨line, numbered, numberedEq, -, texts⟩ := List.map_eq_cons_iff.mp found
  refine ⟨numbered, texts, ?_⟩
  change ofHeader header = _
  rw [ofHeader, written, numberedEq]
  rfl

/-- A text with the lines of pairs between a sentinel and a closing line ships the pairs that are
listed. -/
theorem parse_eq_ofPairs {file text : String} {above rest : List (List Char)}
    {start closing : List Char} {pairs : List (String × Nat)}
    (lines : Text.lines text.toList = above ++ start :: (pairs.map entryLine ++ closing :: rest))
    (unmarked : ∀ line ∈ above, Text.contains sentinel line = false)
    (marked : Text.contains sentinel start = true) (spelled : ∀ pair ∈ pairs, Spelled pair.1 pair.2)
    (closed : closes (Text.trim closing) = true) :
    parse file text = ofPairs file (listed pairs) := by
  obtain ⟨numbered, texts, readEq⟩ := exists_parse_eq lines unmarked marked
  rw [readEq]
  exact readEntries_eq_foldlM spelled closed texts

/-- The lines of a text with the lines of pairs between a sentinel and a closing brace. -/
theorem exists_lines_of_entries {above start below : List Char} {pairs : List (String × Nat)}
    (inline : '\n' ∉ start) (kept : start.getLast? ≠ some '\r')
    (spelled : ∀ pair ∈ pairs, Spelled pair.1 pair.2) :
    ∃ closing rest, closes (Text.trim closing) = true ∧
      Text.lines (above ++ '\n' :: (start ++ '\n' ::
        (pairs.flatMap (fun pair => entryLine pair ++ ['\n']) ++ ([' ', '\x7d'] ++ below)))) =
        Text.lines (above ++ ['\n']) ++ start :: (pairs.map entryLine ++ closing :: rest) := by
  have opens : [' ', '\x7d'] ≠ [] := List.cons_ne_nil _ _
  -- What follows the brace may hold line endings, so only the start of its line is known.
  obtain ⟨closing, rest, lastLines, tail, closingEq⟩ :=
    Text.exists_lines_of_append opens (by decide) (by decide) below
  have entriesInline : ∀ pair ∈ pairs, '\n' ∉ entryLine pair :=
    fun pair member => newline_not_mem_entryLine (spelled pair member)
  have entriesKept : ∀ pair ∈ pairs, (entryLine pair).getLast? ≠ some '\r' := by
    intro pair _
    rw [getLast?_entryLine]
    decide
  refine ⟨closing, rest, closingEq ▸ closes_brace tail, ?_⟩
  rw [Text.lines_append_newline, Text.lines_cons inline kept,
    Text.lines_flatMap entriesInline entriesKept, lastLines]

end ApiTrace.IdMap
