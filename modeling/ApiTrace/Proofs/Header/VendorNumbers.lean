import ApiTrace.Header.VendorNumbers
import ApiTrace.Proofs.Sequence
import Mathlib.Data.List.DropRight

/-!
# Whose number a function gets

An entry of a vendor's enumeration is an enumerator with a number, and the name behind the marker is
given on its line or on a comment line before it. A name that waits is handed over at the next
entry, and an enumerator without number is no entry. So the entries are those of the enumerators
exactly if all of them have numbers; behind an enumerator without number, an entry without a name of
its own takes the name that was meant for that enumerator.
-/

namespace ApiTrace

/-! ## The lines of the enumeration -/

namespace NumberEnum

variable (spec : NumberEnum)

/-- Whether a line is a comment of its own. -/
def isComment (line : List Char) : Bool :=
  "///".toList.isPrefixOf (Text.trim line)

/-- Whether a line declares an enumerator. -/
def isEnumerator (line : List Char) : Bool :=
  !isComment line && spec.entryStart.toList.isPrefixOf (Text.trim line)

/-- Whether a line gives a number to an enumerator. -/
def isEntry (line : List Char) : Bool :=
  spec.isEnumerator line && (Text.trim line).contains '='

/-- Whether a line ends the enumeration. -/
def closes (line : List Char) : Bool :=
  ['\x7d'].isPrefixOf (Text.trim line) || Text.contains spec.terminator.toList (Text.trim line)

/-- The name behind the marker on a line. -/
def nameOn? (line : List Char) : Option String :=
  Header.nameAfter? spec.nameMarker (Text.trim line)

/-- A comment line among `lines` gives a name. -/
def Comments (lines : List (List Char)) (name : String) : Prop :=
  ∃ comment ∈ lines, isComment comment = true ∧ spec.nameOn? comment = some name

/-- The lines behind the last enumerator. -/
def sinceEnumerator (before : List (List Char)) : List (List Char) :=
  before.rtakeWhile fun line => !spec.isEnumerator line

/-- The lines behind the last entry. -/
def sinceEntry (before : List (List Char)) : List (List Char) :=
  before.rtakeWhile fun line => !spec.isEntry line

/-- A name belongs to the enumerator on a line: it is given there, or on a comment line between the
enumerator before it and the line. -/
def Names (before : List (List Char)) (line : List Char) (name : String) : Prop :=
  spec.nameOn? line = some name ∨ spec.Comments (spec.sinceEnumerator before) name

end NumberEnum

/-- The lines of a vendor's enumeration: those behind the first line that opens it, up to the first
that ends it. -/
def Header.numberLines (header : Header) (spec : NumberEnum) : List (List Char) :=
  ((header.lines.dropWhile fun line => !Header.opensNumberEnum spec line).drop 1).takeWhile
    fun line => !spec.closes line

namespace NumberEnum

variable {spec : NumberEnum} {line : List Char}

theorem isEnumerator_of_isEntry (entry : spec.isEntry line = true) :
    spec.isEnumerator line = true :=
  (Bool.and_eq_true_iff.mp entry).1

theorem isEnumerator_of_isComment (comment : isComment line = true) :
    spec.isEnumerator line = false := by
  rw [isEnumerator, comment]
  rfl

theorem isEntry_of_not_isEnumerator (other : spec.isEnumerator line = false) :
    spec.isEntry line = false := by
  rw [isEntry, other, Bool.false_and]

/-- As many entries as enumerators: all enumerators are entries. -/
theorem countP_isEntry_eq_iff {lines : List (List Char)} :
    lines.countP spec.isEntry = lines.countP spec.isEnumerator ↔
      ∀ line ∈ lines, spec.isEnumerator line = true → '=' ∈ Text.trim line := by
  have within : (lines.filter spec.isEnumerator).countP spec.isEntry =
      lines.countP spec.isEntry := by
    rw [List.countP_filter]
    refine List.countP_congr fun line _ => ?_
    rw [Bool.and_eq_true_iff]
    exact and_iff_left_of_imp isEnumerator_of_isEntry
  rw [← within, List.countP_eq_length_filter (p := spec.isEnumerator), List.countP_eq_length]
  simp only [List.mem_filter, isEntry, Bool.and_eq_true_iff, List.contains_iff_mem]
  exact ⟨fun all line member enumerator => (all line ⟨member, enumerator⟩).2,
    fun all line found => ⟨found.2, all line found.1 found.2⟩⟩

theorem comments_concat {lines : List (List Char)} {name : String} :
    spec.Comments (lines ++ [line]) name ↔
      spec.Comments lines name ∨ isComment line = true ∧ spec.nameOn? line = some name := by
  simp [Comments, or_and_right, exists_or]

theorem sinceEnumerator_concat {before : List (List Char)} :
    spec.sinceEnumerator (before ++ [line]) =
      if spec.isEnumerator line then [] else spec.sinceEnumerator before ++ [line] := by
  rw [sinceEnumerator, List.rtakeWhile_concat]
  cases spec.isEnumerator line <;> rfl

theorem sinceEntry_concat {before : List (List Char)} (other : spec.isEntry line = false) :
    spec.sinceEntry (before ++ [line]) = spec.sinceEntry before ++ [line] := by
  rw [sinceEntry, List.rtakeWhile_concat, other]
  rfl

end NumberEnum

/-! ## What is known behind some lines -/

/-- The entries that lines give, and the name that waits behind them. -/
inductive ReadsNumbers (spec : NumberEnum) :
    List (List Char) → List Entry → Option String → Prop where
  | nil : ReadsNumbers spec [] [] none
  | comment {seen : List (List Char)} {entries : List Entry} {pending : Option String}
    {line : List Char} (reads : ReadsNumbers spec seen entries pending)
    (comment : NumberEnum.isComment line = true) :
    ReadsNumbers spec (seen ++ [line]) entries ((spec.nameOn? line).or pending)
  | entry {seen : List (List Char)} {entries : List Entry} {pending : Option String}
    {line : List Char} {number : Nat} {name : String}
    (reads : ReadsNumbers spec seen entries pending)
    (entry : spec.isEntry line = true)
    (numbered : Header.entryNumber? (Text.trim line) = some number)
    (named : (spec.nameOn? line).or pending = some name) :
    ReadsNumbers spec (seen ++ [line]) (entries ++ [⟨name, some number⟩]) none
  | other {seen : List (List Char)} {entries : List Entry} {pending : Option String}
    {line : List Char} (reads : ReadsNumbers spec seen entries pending)
    (code : NumberEnum.isComment line = false) (other : spec.isEntry line = false) :
    ReadsNumbers spec (seen ++ [line]) entries pending

namespace ReadsNumbers

variable {spec : NumberEnum} {seen : List (List Char)} {entries more : List Entry}
  {pending : Option String}

/-- A line that does not end an enumeration gives at most one entry, and the rest is read from what
is known behind it. -/
theorem exists_step_of_vendorNumbersIn {file : String} {numbered : NumberedLine}
    {lines : List NumberedLine} (reads : ReadsNumbers spec seen entries pending)
    (goesOn : spec.closes numbered.text = false)
    (ended : Header.vendorNumbersIn spec file pending (numbered :: lines) = .ok more) :
    ∃ next rest waiting, entries ++ more = next ++ rest ∧
      ReadsNumbers spec (seen ++ [numbered.text]) next waiting ∧
      Header.vendorNumbersIn spec file waiting lines = .ok rest := by
  rw [NumberEnum.closes] at goesOn
  simp only [Header.vendorNumbersIn, goesOn, Bool.false_eq_true, if_false] at ended
  split at ended
  · rename_i comment
    exact ⟨entries, more, _, rfl, reads.comment comment, ended⟩
  rename_i code
  rw [Bool.not_eq_true] at code
  split at ended
  · rename_i entry
    have isEntry : spec.isEntry numbered.text = true := by
      rw [NumberEnum.isEntry, NumberEnum.isEnumerator, NumberEnum.isComment, code]
      exact entry
    split at ended
    · contradiction
    rename_i number numbered
    split at ended
    · contradiction
    rename_i name named
    obtain ⟨others, rest, rfl⟩ := map_eq_ok ended
    exact ⟨entries ++ [⟨name, some number⟩], others, none, List.append_cons _ _ _,
      reads.entry isEntry numbered named, rest⟩
  · rename_i other
    rw [Bool.not_eq_true] at other
    refine ⟨entries, more, pending, rfl, reads.other code ?_, ended⟩
    rw [NumberEnum.isEntry, NumberEnum.isEnumerator, NumberEnum.isComment, code]
    exact other

/-- The rest of an enumeration is read from what is known behind the lines before. -/
theorem of_vendorNumbersIn {file : String} {lines : List NumberedLine}
    (reads : ReadsNumbers spec seen entries pending)
    (ended : Header.vendorNumbersIn spec file pending lines = .ok more) :
    ∃ waiting, ReadsNumbers spec
      (seen ++ (lines.map NumberedLine.text).takeWhile fun line => !spec.closes line)
      (entries ++ more) waiting := by
  induction lines generalizing seen entries more pending with
  | nil =>
      cases ended
      refine ⟨pending, ?_⟩
      rwa [List.map_nil, List.takeWhile_nil, List.append_nil, List.append_nil]
  | cons numbered lines ih =>
      cases closes : spec.closes numbered.text with
      | true =>
          have stopped : Header.vendorNumbersIn spec file pending (numbered :: lines) = .ok [] :=
            if_pos closes
          rw [stopped] at ended
          cases ended
          refine ⟨pending, ?_⟩
          rwa [List.map_cons, List.takeWhile_cons_of_neg (by rw [closes]; decide), List.append_nil,
            List.append_nil]
      | false =>
          obtain ⟨next, rest, waiting, together, step, ended⟩ :=
            reads.exists_step_of_vendorNumbersIn closes ended
          rw [together, List.map_cons, List.takeWhile_cons_of_pos (by rw [closes]; rfl),
            List.append_cons]
          exact ih step ended

/-- A vendor's enumeration is read from nothing. -/
theorem of_vendorNumbers {header : Header} (ended : header.vendorNumbers spec = .ok entries) :
    ∃ waiting, ReadsNumbers spec (header.numberLines spec) entries waiting := by
  have texts : (header.numbered.dropWhile fun line => !Header.opensNumberEnum spec line.text).map
      NumberedLine.text = header.lines.dropWhile fun line => !Header.opensNumberEnum spec line := by
    rw [← header.map_text_numbered, List.dropWhile_map]
    rfl
  unfold Header.vendorNumbers at ended
  split at ended
  · contradiction
  · rename_i opener lines found
    rw [found, List.map_cons] at texts
    rw [Header.numberLines, ← texts, List.drop_one, List.tail_cons]
    exact of_vendorNumbersIn .nil ended

/-- Every entry has its own line. -/
theorem length_eq (reads : ReadsNumbers spec seen entries pending) :
    entries.length = seen.countP spec.isEntry := by
  induction reads with
  | nil => rfl
  | @comment seen entries pending line reads comment ih =>
      have none : spec.isEntry line = false :=
        NumberEnum.isEntry_of_not_isEnumerator (NumberEnum.isEnumerator_of_isComment comment)
      rw [List.countP_append, List.countP_singleton, none, ih]
      rfl
  | entry reads entry numbered named ih =>
      rw [List.countP_append, List.countP_singleton, entry, List.length_append, ih]
      rfl
  | other reads code other ih =>
      rw [List.countP_append, List.countP_singleton, other, ih]
      rfl

/-- A name that waits was given behind the last entry, and behind the last enumerator if any was
given there. Otherwise there is an enumerator without number behind the entry. -/
theorem given (reads : ReadsNumbers spec seen entries pending) {name : String}
    (waits : pending = some name) :
    spec.Comments (spec.sinceEntry seen) name ∧
      (spec.Comments (spec.sinceEnumerator seen) name ∨
        (∀ other, ¬spec.Comments (spec.sinceEnumerator seen) other) ∧
          ∃ skipped ∈ spec.sinceEntry seen, spec.isEnumerator skipped = true) := by
  induction reads with
  | nil => contradiction
  | @comment seen entries pending line reads comment ih =>
      have plain : spec.isEnumerator line = false := NumberEnum.isEnumerator_of_isComment comment
      rw [NumberEnum.sinceEnumerator_concat, plain,
        NumberEnum.sinceEntry_concat (NumberEnum.isEntry_of_not_isEnumerator plain)]
      simp only [Bool.false_eq_true, if_false, NumberEnum.comments_concat, comment, true_and]
      cases here : spec.nameOn? line with
      | some given =>
          rw [here, Option.some_or] at waits
          exact ⟨.inr waits, .inl (.inr waits)⟩
      | none =>
          rw [here, Option.none_or] at waits
          obtain ⟨given, place⟩ := ih waits
          refine ⟨.inl given, place.imp .inl ?_⟩
          rintro ⟨empty, skipped, member, isSkipped⟩
          exact ⟨fun other named => named.elim (empty other) nofun, skipped,
            List.mem_append_left _ member, isSkipped⟩
  | entry => contradiction
  | @other seen entries pending line reads code other ih =>
      obtain ⟨given, place⟩ := ih waits
      rw [NumberEnum.sinceEnumerator_concat, NumberEnum.sinceEntry_concat other]
      refine ⟨NumberEnum.comments_concat.mpr (.inl given), ?_⟩
      split
      · rename_i skipped
        -- nothing is given behind this enumerator, and what was given before it still waits
        refine .inr ⟨fun other => nofun, line,
          List.mem_append_right _ (List.mem_singleton_self line), skipped⟩
      · simp only [NumberEnum.comments_concat, code, Bool.false_eq_true, false_and, or_false]
        refine place.imp_right ?_
        rintro ⟨empty, skipped, member, isSkipped⟩
        exact ⟨empty, skipped, List.mem_append_left _ member, isSkipped⟩

/-- The name of an entry belongs to its line, if any name does. -/
theorem names (reads : ReadsNumbers spec seen entries pending) {line : List Char} {name : String}
    (named : (spec.nameOn? line).or pending = some name) :
    spec.Names seen line name ∨
      (∀ other, ¬spec.Names seen line other) ∧ spec.Comments (spec.sinceEntry seen) name ∧
        ∃ skipped ∈ spec.sinceEntry seen, spec.isEnumerator skipped = true := by
  unfold NumberEnum.Names
  cases here : spec.nameOn? line with
  | some given =>
      rw [here, Option.some_or] at named
      exact .inl (.inl named)
  | none =>
      rw [here, Option.none_or] at named
      obtain ⟨given, own | ⟨empty, skipped⟩⟩ := reads.given named
      · exact .inl (.inr own)
      · exact .inr ⟨fun other => not_or.mpr ⟨nofun, empty other⟩, given, skipped⟩

/-- Every entry has the number on its own line, and a name from there or from a comment line before.
-/
theorem exists_line (reads : ReadsNumbers spec seen entries pending) {index : Nat} {entry : Entry}
    (found : entries[index]? = some entry) :
    ∃ before line after, seen = before ++ line :: after ∧ spec.isEntry line = true ∧
      before.countP spec.isEntry = index ∧
        (∃ number, Header.entryNumber? (Text.trim line) = some number ∧
          entry.declared = some number) ∧
          (spec.Names before line entry.name ∨
            (∀ name, ¬spec.Names before line name) ∧
              spec.Comments (spec.sinceEntry before) entry.name ∧
                ∃ skipped ∈ spec.sinceEntry before, spec.isEnumerator skipped = true) := by
  induction reads with
  | nil => contradiction
  | @comment seen entries pending line reads comment ih
  | @other seen entries pending line reads code other ih =>
      obtain ⟨before, earlier, after, rfl, place⟩ := ih found
      exact ⟨before, earlier, after ++ [line], by rw [List.append_assoc, List.cons_append], place⟩
  | @entry seen entries pending line number name reads isEntry numbered named ih =>
      rw [List.getElem?_append] at found
      split at found
      · obtain ⟨before, earlier, after, rfl, place⟩ := ih found
        exact ⟨before, earlier, after ++ [line], by rw [List.append_assoc, List.cons_append], place⟩
      · rename_i behind
        rw [List.getElem?_singleton] at found
        split at found
        swap
        · contradiction
        cases found
        refine ⟨seen, line, [], rfl, isEntry, ?_, ⟨number, numbered, rfl⟩, reads.names named⟩
        rw [← reads.length_eq]
        omega

end ReadsNumbers

/-! ## The enumeration -/

/-- The entries that are read are those of the enumerators with numbers, in their order and with the
numbers on their lines, so there is one for each enumerator exactly if all enumerators have numbers.
The name of an entry belongs to its enumerator exactly if any name does. Otherwise it is one that
was given behind the entry before, where an enumerator without number stands. -/
theorem Header.vendorNumbers_names {header : Header} {spec : NumberEnum} {entries : List Entry}
    (ended : header.vendorNumbers spec = .ok entries) :
    entries.length = (header.numberLines spec).countP spec.isEntry ∧
      (entries.length = (header.numberLines spec).countP spec.isEnumerator ↔
        ∀ line ∈ header.numberLines spec, spec.isEnumerator line = true → '=' ∈ Text.trim line) ∧
      ∀ index entry, entries[index]? = some entry → ∃ before line after,
        header.numberLines spec = before ++ line :: after ∧ spec.isEntry line = true ∧
          before.countP spec.isEntry = index ∧
          (∃ number, entryNumber? (Text.trim line) = some number ∧ entry.declared = some number) ∧
          (spec.Names before line entry.name ∨
            (∀ name, ¬spec.Names before line name) ∧
              spec.Comments (spec.sinceEntry before) entry.name ∧
                ∃ skipped ∈ spec.sinceEntry before, spec.isEnumerator skipped = true) := by
  obtain ⟨waiting, reads⟩ := ReadsNumbers.of_vendorNumbers ended
  exact ⟨reads.length_eq, by rw [reads.length_eq, NumberEnum.countP_isEntry_eq_iff],
    fun index entry found => reads.exists_line found⟩

/-! ## An enumerator that loses its name -/

namespace Runtime

def before : List (List Char) :=
  [" UR_FUNCTION_INIT = 3, ///< Enumerator for ::urInit", " /// Enumerator for ::urContextCreate",
    " UR_FUNCTION_CONTEXT_CREATE,"].map String.toList

def line : List Char :=
  " UR_FUNCTION_ADAPTER_GET = 5,".toList

def header : Header where
  name := "ur_api.h"
  lines := "typedef enum ur_function_t \x7b".toList :: before ++
    [line, " UR_FUNCTION_FORCE_UINT32 = 0x7fffffff".toList, "\x7d ur_function_t;".toList]

def entries : List Entry :=
  [⟨"urInit", some 3⟩, ⟨"urContextCreate", some 5⟩]

theorem ended : header.vendorNumbers {} = .ok entries :=
  toOption_eq_some_iff.mp (by decide +kernel)

theorem numberLines_eq : header.numberLines {} = before ++ [line] := by
  decide +kernel

end Runtime

theorem Header.vendorNumbers_names_runtime :
    Runtime.header.vendorNumbers {} = .ok Runtime.entries ∧
      Runtime.entries.length = (Runtime.header.numberLines {}).countP ({} : NumberEnum).isEntry ∧
        ∃ before line after, Runtime.header.numberLines {} = before ++ line :: after ∧
          ({} : NumberEnum).isEntry line = true ∧ entryNumber? (Text.trim line) = some 3 ∧
            ({} : NumberEnum).Names before line "urInit" := by
  obtain ⟨long, -, named⟩ := vendorNumbers_names Runtime.ended
  refine ⟨Runtime.ended, long, ?_⟩
  obtain ⟨before, line, after, split, entry, first, ⟨number, read, declared⟩, own | given⟩ :=
    named 0 ⟨"urInit", some 3⟩ rfl
  · cases declared
    exact ⟨before, line, after, split, entry, read, own⟩
  · -- no line stands before the first entry, so no name waits for it
    obtain ⟨-, ⟨comment, member, -⟩, -⟩ := given
    cases before with
    | nil => exact absurd member List.not_mem_nil
    | cons head before =>
        rw [Runtime.numberLines_eq, Runtime.before, List.map_cons, List.cons_append] at split
        rw [← (List.cons.inj split).1, List.countP_cons_of_pos (by decide +kernel)] at first
        contradiction

/-- An enumerator without number is left out, and the entry behind it takes its name, although no
name belongs to that entry. -/
theorem Header.vendorNumbers_names_skipped :
    Runtime.header.vendorNumbers {} = .ok Runtime.entries ∧
      Runtime.entries[1]? = some ⟨"urContextCreate", some 5⟩ ∧
        Runtime.header.numberLines {} = Runtime.before ++ [Runtime.line] ∧
          (Runtime.header.numberLines {}).countP ({} : NumberEnum).isEnumerator = 3 ∧
            ∀ name, ¬({} : NumberEnum).Names Runtime.before Runtime.line name := by
  refine ⟨Runtime.ended, rfl, Runtime.numberLines_eq, by decide +kernel, fun name => ?_⟩
  have here : ({} : NumberEnum).nameOn? Runtime.line = none := by decide +kernel
  have since : ({} : NumberEnum).sinceEnumerator Runtime.before = [] := by decide +kernel
  rw [NumberEnum.Names, here, since]
  exact not_or.mpr ⟨nofun, fun given => nomatch given⟩

end ApiTrace
