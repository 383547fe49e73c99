import ApiTrace.Proofs.Header.Comment
import ApiTrace.Proofs.Identity.IdFile
import ApiTrace.Proofs.Sequence
import Mathlib.Data.List.Perm.Basic

/-!
# The entries of an id header

A header ships the pairs of its entry lines: the lines below the first line with the sentinel, up to
the line that closes the enumeration, but for blank lines and comments. It is read exactly if each
of these lines is an entry and neither names nor numbers repeat, so the order of the entry lines
does not matter, nor what blank lines and comments stand between them.
-/

namespace ApiTrace

namespace Text

/-! ## Lines and cuts -/

theorem mem_endLine {c : Char} (kept : c ≠ '\r') {reversed : List Char} (member : c ∈ reversed) :
    c ∈ endLine reversed := by
  rw [endLine.eq_def]
  split
  · exact List.mem_reverse.mpr (List.mem_of_ne_of_mem kept member)
  · exact List.mem_reverse.mpr member

theorem exists_line_of_mem_linesFrom {c : Char} (inline : c ≠ '\n') (kept : c ≠ '\r')
    {reversed text : List Char} (member : c ∈ reversed ∨ c ∈ text) :
    ∃ line ∈ linesFrom reversed text, c ∈ line := by
  induction text generalizing reversed with
  | nil =>
      have pending := member.resolve_right List.not_mem_nil
      rw [linesFrom, if_neg (by simpa using List.ne_nil_of_mem pending)]
      exact ⟨reversed.reverse, List.mem_singleton_self _, List.mem_reverse.mpr pending⟩
  | cons d text ih =>
      rw [linesFrom]
      split
      · rename_i ends
        rcases member with pending | member
        · exact ⟨endLine reversed, List.mem_cons_self, mem_endLine kept pending⟩
        · obtain ⟨line, among, within⟩ := ih (.inr (List.mem_of_ne_of_mem (ends ▸ inline) member))
          exact ⟨line, List.mem_cons_of_mem _ among, within⟩
      · apply ih
        rcases member with pending | member
        · exact .inl (List.mem_cons_of_mem d pending)
        · rcases List.mem_cons.mp member with rfl | later
          · exact .inl List.mem_cons_self
          · exact .inr later

/-- A character that is no blank stands on a line. -/
theorem exists_line_of_mem {text : List Char} {c : Char} (member : c ∈ text)
    (solid : isBlank c = false) :
    ∃ line ∈ lines text, c ∈ line := by
  apply exists_line_of_mem_linesFrom _ _ (.inr member)
  all_goals
    rintro rfl
    contradiction

theorem splitOnce?_singleton_eq_some_iff {c : Char} {text before after : List Char} :
    splitOnce? [c] text = some (before, after) ↔ text = before ++ c :: after ∧ c ∉ before := by
  constructor
  · intro cut
    have split := append_of_splitOnce?_eq_some cut
    refine ⟨by rw [split, List.append_assoc, List.singleton_append], fun member => ?_⟩
    obtain ⟨earlier, between, rfl⟩ := List.append_of_mem member
    have earlierCut : text = earlier ++ [c] ++ (between ++ [c] ++ after) := by simp [split]
    have first := length_le_of_splitOnce? cut earlierCut
    rw [List.length_append, List.length_cons] at first
    omega
  · rintro ⟨rfl, absent⟩
    exact splitOnce?_append absent [] after

theorem dropEnd?_eq_some_iff {pattern text rest : List Char} :
    dropEnd? pattern text = some rest ↔ text = rest ++ pattern := by
  constructor
  · intro dropped
    obtain ⟨reversed, found, rfl⟩ := Option.map_eq_some_iff.mp dropped
    rw [← List.reverse_inj, List.reverse_append, List.reverse_reverse]
    exact append_of_isPrefixOf?_eq_some found
  · rintro rfl
    exact dropEnd?_append rest pattern

end Text

namespace IdMap

/-! ## Entry lines -/

/-- A line is the entry of a name and a number: the name with its ending and the numeral stand on
the two sides of the first equals sign, the numeral before commas, and blanks may stand around each.
-/
def EntryLine (line : List Char) (pair : String × Nat) : Prop :=
  ∃ left right, Text.trim line = left ++ '=' :: right ∧ '=' ∉ left ∧
    Text.trim left = pair.1.toList ++ "_id".toList ∧ pair.1 ≠ "" ∧
      Text.readWord? (Text.trim (Text.dropEndWhile (· == ',') (Text.trim right))) = some pair.2

theorem readEntry?_eq_some_iff {line : List Char} {pair : String × Nat} :
    readEntry? (Text.trim line) = some pair ↔ EntryLine line pair := by
  unfold readEntry?
  simp only [Option.bind_eq_bind, Option.bind_eq_some_iff]
  constructor
  · rintro ⟨⟨left, right⟩, cut, name, dropped, number, read, kept⟩
    obtain ⟨split, absent⟩ := Text.splitOnce?_singleton_eq_some_iff.mp cut
    split at kept
    · contradiction
    · rename_i nonempty
      cases kept
      refine ⟨left, right, split, absent, ?_, ?_, read⟩
      · rw [String.toList_ofList]
        exact Text.dropEnd?_eq_some_iff.mp dropped
      · exact fun empty => nonempty (by simpa using congrArg String.toList empty)
  · rintro ⟨left, right, split, absent, named, nonempty, read⟩
    refine ⟨(left, right), Text.splitOnce?_singleton_eq_some_iff.mpr ⟨split, absent⟩, pair.1.toList,
      Text.dropEnd?_eq_some_iff.mpr named, pair.2, read, ?_⟩
    rw [if_neg (by simpa using nonempty), String.ofList_toList]

/-- The lines of a block that are no comments and not blank. -/
def entryLines (block : List (List Char)) : List (List Char) :=
  block.filter fun line => !carriesNothing (Text.trim line)

theorem entryLines_cons_of_nothing {line : List Char}
    (nothing : carriesNothing (Text.trim line) = true)
    (block : List (List Char)) : entryLines (line :: block) = entryLines block :=
  List.filter_cons_of_neg (by simp [nothing])

theorem entryLines_cons_of_entry {line : List Char}
    (entry : carriesNothing (Text.trim line) = false)
    (block : List (List Char)) : entryLines (line :: block) = line :: entryLines block :=
  List.filter_cons_of_pos (by simp [entry])

/-! ## The block of entries -/

/-- The lines of a header, cut at the first sentinel and at the next line that closes the
enumeration. -/
structure EntryBlock (lines above : List (List Char)) (start : List Char)
    (block below : List (List Char)) :
    Prop where
  split : lines = above ++ start :: (block ++ below)
  unmarked : ∀ line ∈ above, Text.contains sentinel line = false
  marked : Text.contains sentinel start = true
  unclosed : ∀ line ∈ block, closes (Text.trim line) = false
  closed : ∀ line ∈ below.head?, closes (Text.trim line) = true

/-- Reading an entry line inserts its pair. -/
theorem readEntries_cons_eq_ok_iff {file : String} {map after : IdMap} {line : NumberedLine}
    {lines : List NumberedLine} (unclosed : closes (Text.trim line.text) = false)
    (something : carriesNothing (Text.trim line.text) = false) :
    readEntries file map (line :: lines) = .ok after ↔ ∃ pair, EntryLine line.text pair ∧
      ∃ middle, map.insert file pair.1 pair.2 = .ok middle ∧
        readEntries file middle lines = .ok after := by
  rw [readEntries, if_neg (by simp [unclosed]), if_neg (by simp [something])]
  simp only [← readEntry?_eq_some_iff]
  cases read : readEntry? (Text.trim line.text) with
  | none => simp
  | some pair => cases inserted : map.insert file pair.1 pair.2 <;> simp [inserted]

/-- A block is read entry by entry. -/
theorem readEntries_eq_ok_iff {file : String} {map after : IdMap} {lines : List NumberedLine}
    {block below : List (List Char)} (texts : lines.map NumberedLine.text = block ++ below)
    (unclosed : ∀ line ∈ block, closes (Text.trim line) = false)
    (closed : ∀ line ∈ below.head?, closes (Text.trim line) = true) :
    readEntries file map lines = .ok after ↔
      ∃ pairs, List.Forall₂ EntryLine (entryLines block) pairs ∧
        pairs.foldlM (fun map pair => map.insert file pair.1 pair.2) map = .ok after := by
  induction block generalizing map lines with
  | nil =>
      rw [readEntries_of_closed (by rwa [texts, List.nil_append])]
      constructor
      · rintro ⟨⟩
        exact ⟨[], .nil, rfl⟩
      · rintro ⟨pairs, entries, inserted⟩
        cases entries
        exact inserted
  | cons text block ih =>
      obtain ⟨line, lines, rfl, textEq, texts⟩ := List.map_eq_cons_iff.mp texts
      obtain ⟨textUnclosed, unclosed⟩ := List.forall_mem_cons.mp unclosed
      cases nothing : carriesNothing (Text.trim text) with
      | true =>
          rw [readEntries, textEq, if_neg (by simp [textUnclosed]), if_pos nothing,
            ih texts unclosed, entryLines_cons_of_nothing nothing]
      | false =>
          rw [readEntries_cons_eq_ok_iff (by rw [textEq, textUnclosed]) (by rw [textEq, nothing]),
            textEq, entryLines_cons_of_entry nothing]
          constructor
          · rintro ⟨pair, entry, middle, inserted, rest⟩
            obtain ⟨pairs, entries, made⟩ := (ih texts unclosed).mp rest
            refine ⟨pair :: pairs, .cons entry entries, ?_⟩
            rw [List.foldlM_cons, inserted]
            exact made
          · rintro ⟨_, entries, made⟩
            cases entries with
            | cons entry entries =>
                rw [List.foldlM_cons] at made
                obtain ⟨middle, inserted, made⟩ := bind_eq_ok made
                exact ⟨_, entry, middle, inserted, (ih texts unclosed).mpr ⟨_, entries, made⟩⟩

/-! ## Texts with a block -/

/-- A line with the sentinel cuts a text. -/
theorem exists_entryBlock {lines : List (List Char)} {line : List Char} (among : line ∈ lines)
    (marked : Text.contains sentinel line = true) :
    ∃ above start block below, EntryBlock lines above start block below := by
  obtain ⟨start, found⟩ := Option.isSome_iff_exists.mp (List.find?_isSome.mpr ⟨line, among, marked⟩)
  obtain ⟨startMarked, above, rest, rfl, unmarked⟩ := List.find?_eq_some_iff_append.mp found
  let unclosed (line : List Char) : Bool := !closes (Text.trim line)
  refine ⟨above, start, rest.takeWhile unclosed, rest.dropWhile unclosed, ?_, ?_, startMarked, ?_,
    ?_⟩
  · rw [List.takeWhile_append_dropWhile]
  · simpa using unmarked
  · intro line member
    simpa [unclosed] using List.all_eq_true.mp List.all_takeWhile line member
  · intro line first
    have stopped := List.head?_dropWhile_not unclosed rest
    rw [first] at stopped
    simpa [unclosed] using stopped

/-- A text that is not blank is refused without a sentinel. -/
theorem parse_eq_error_of_unmarked {file text : String} (solid : Text.trim text.toList ≠ [])
    (unmarked : ∀ line ∈ Text.lines text.toList, Text.contains sentinel line = false) :
    parse file text = .error (.malformed file 1 "no `reserved_` sentinel") := by
  let header := Header.ofText file text
  have headerLines : header.lines = Text.lines text.toList := rfl
  have written : (header.lines.all fun line => line.all Text.isBlank) = false := by
    obtain ⟨c, rest, trimmed⟩ := List.exists_cons_of_ne_nil solid
    have notBlank : Text.isBlank c = false := Text.isBlank_head?_trim (by rw [trimmed]; rfl)
    have member : c ∈ text.toList :=
      (Text.trim_isInfix text.toList).subset (trimmed ▸ List.mem_cons_self)
    obtain ⟨line, among, within⟩ := Text.exists_line_of_mem member notBlank
    refine List.all_eq_false.mpr ⟨line, among, ?_⟩
    rw [Bool.not_eq_true, List.all_eq_false]
    exact ⟨c, within, by simp [notBlank]⟩
  have unfound : header.numbered.dropWhile (fun line => !Text.contains sentinel line.text) =
      [] := by
    rw [List.dropWhile_eq_nil_iff]
    intro line member
    have among : line.text ∈ header.lines := by
      rw [← Header.map_text_numbered]
      exact List.mem_map_of_mem member
    simp [unmarked line.text (headerLines ▸ among)]
  change ofHeader header = _
  rw [ofHeader, written, unfound]
  rfl

theorem exists_entryBlock_of_parse {file text : String} {map : IdMap}
    (accepted : parse file text = .ok map)
    (solid : Text.trim text.toList ≠ []) :
    ∃ above start block below, EntryBlock (Text.lines text.toList) above start block below := by
  by_cases marked : ∃ line ∈ Text.lines text.toList, Text.contains sentinel line = true
  · obtain ⟨line, among, marked⟩ := marked
    exact exists_entryBlock among marked
  · have unmarked : ∀ line ∈ Text.lines text.toList, Text.contains sentinel line = false := by
      simpa using marked
    rw [parse_eq_error_of_unmarked solid unmarked] at accepted
    contradiction

section EntryBlock

variable {file text : String} {map : IdMap} {above block below : List (List Char)}
  {start : List Char}

/-- A text is read as the pairs of its entry lines. -/
theorem EntryBlock.parse_eq_ok_iff
    (cut : EntryBlock (Text.lines text.toList) above start block below) :
    parse file text = .ok map ↔
      ∃ pairs, List.Forall₂ EntryLine (entryLines block) pairs ∧ ofPairs file pairs = .ok map := by
  obtain ⟨lines, texts, readEq⟩ := exists_parse_eq cut.split cut.unmarked cut.marked
  rw [readEq]
  exact readEntries_eq_ok_iff texts cut.unclosed cut.closed

/-- Texts with the same entry lines are read alike, whatever their order. -/
theorem EntryBlock.parse_eq_ok_of_perm
    (cut : EntryBlock (Text.lines text.toList) above start block below)
    (accepted : parse file text = .ok map) {other : String}
    {before others behind : List (List Char)}
    {first : List Char} (otherCut : EntryBlock (Text.lines other.toList) before first others behind)
    (perm : (entryLines others).Perm (entryLines block)) (scope : String) :
    parse scope other = .ok map := by
  obtain ⟨pairs, entries, made⟩ := cut.parse_eq_ok_iff.mp accepted
  obtain ⟨otherPairs, otherEntries, otherPerm⟩ := List.perm_comp_forall₂ perm entries
  exact otherCut.parse_eq_ok_iff.mpr
    ⟨otherPairs, otherEntries, ofPairs_eq_ok_of_perm made otherPerm.symm scope⟩

end EntryBlock

/-! ## What is read -/

private theorem foldl_start (number : Nat) (pairs : List (String × Nat)) :
    pairs.foldl (fun start pair => max start (min (pair.2 + 1) Text.maxWord))
        (min (number + 1) Text.maxWord) =
      min ((pairs.map Prod.snd).foldl max number + 1) Text.maxWord := by
  induction pairs generalizing number with
  | nil => rfl
  | cons pair pairs ih =>
      have step : max (min (number + 1) Text.maxWord) (min (pair.2 + 1) Text.maxWord) =
          min (max number pair.2 + 1) Text.maxWord := by omega
      rw [List.foldl_cons, step, ih, List.map_cons, List.foldl_cons]

/-- New numbers start above the largest number, as far as 32 bits allow. -/
theorem startAfter_one (pairs : List (String × Nat)) :
    startAfter 1 pairs =
      ((pairs.map Prod.snd).max?.map fun largest => min (largest + 1) Text.maxWord).getD 1 := by
  cases pairs with
  | nil => rfl
  | cons pair pairs =>
      have first : max 1 (min (pair.2 + 1) Text.maxWord) = min (pair.2 + 1) Text.maxWord := by
        have : 1 ≤ Text.maxWord := by decide
        omega
      rw [startAfter, List.foldl_cons, first, foldl_start, List.map_cons, List.max?_cons']
      rfl

/-- A map ships the pairs of a list, each with a name and a number of its own, and new numbers start
above. -/
structure MadeOf (map : IdMap) (pairs : List (String × Nat)) : Prop where
  entries : map.entries.Perm pairs
  named : ∀ pair ∈ pairs, pair.1 ≠ ""
  numbered : ∀ pair ∈ pairs, pair.2 ≠ 0
  names : (pairs.map Prod.fst).Nodup
  numbers : (pairs.map Prod.snd).Nodup
  nextFree : map.nextFree =
    ((pairs.map Prod.snd).max?.map fun largest => min (largest + 1) Text.maxWord).getD 1

theorem madeOf_of_ofPairs {scope : String} {map : IdMap} {pairs : List (String × Nat)}
    (made : ofPairs scope pairs = .ok map) (named : ∀ pair ∈ pairs, pair.1 ≠ "") :
    MadeOf map pairs where
  entries := perm_of_ofPairs made
  named := named
  numbered pair member :=
    Nat.ne_of_gt (map.positive pair ((perm_of_ofPairs made).mem_iff.mpr member))
  names := ((perm_of_ofPairs made).map Prod.fst).nodup_iff.mp map.nodup_names
  numbers := ((perm_of_ofPairs made).map Prod.snd).nodup_iff.mp map.nodup_numbers
  nextFree := (nextFree_of_foldlM_insert made).trans (startAfter_one pairs)

theorem named_of_entries {lines : List (List Char)} {pairs : List (String × Nat)}
    (entries : List.Forall₂ EntryLine lines pairs) : ∀ pair ∈ pairs, pair.1 ≠ "" := by
  intro pair member
  obtain ⟨line, _, left, right, _, _, _, nonempty, _⟩ := exists_item_of_forall₂ entries member
  exact nonempty

/-- A line that carries nothing closes the enumeration only by its mark. -/
theorem closes_eq_false_of_carriesNothing {line : List Char}
    (nothing : carriesNothing (Text.trim line) = true)
    (unmarked : Text.contains enumMark line = false) : closes (Text.trim line) = false := by
  have brace : ['\x7d'].isPrefixOf (Text.trim line) = false := by
    cases trimmed : Text.trim line with
    | nil => rfl
    | cons c rest =>
        rw [trimmed] at nothing
        have slash : c = '/' := by
          simp [carriesNothing, List.isPrefixOf] at nothing
          exact nothing.1.symm
        rw [slash]
        rfl
  rw [closes, brace, Text.contains_eq_false_of_isInfix (Text.trim_isInfix line) unmarked]
  rfl

/-- A text that is read and not blank ships the pairs of its entry lines, and a text with these
lines in another order, and with other blank lines and comments between them, is read alike. -/
theorem parse_reads_entryLines {file text : String} {map : IdMap}
    (accepted : parse file text = .ok map)
    (solid : Text.trim text.toList ≠ []) :
    (∃ above start block below, EntryBlock (Text.lines text.toList) above start block below) ∧
    ∀ above start block below, EntryBlock (Text.lines text.toList) above start block below →
      (∃ pairs, List.Forall₂ EntryLine (entryLines block) pairs ∧ MadeOf map pairs) ∧
      ∀ scope other others, Text.lines other.toList = above ++ start :: (others ++ below) →
        (entryLines others).Perm (entryLines block) →
        (∀ line ∈ others, carriesNothing (Text.trim line) = true →
          Text.contains enumMark line = false) →
        parse scope other = .ok map := by
  refine ⟨exists_entryBlock_of_parse accepted solid, fun above start block below cut => ⟨?_, ?_⟩⟩
  · obtain ⟨pairs, entries, made⟩ := cut.parse_eq_ok_iff.mp accepted
    exact ⟨pairs, entries, madeOf_of_ofPairs made (named_of_entries entries)⟩
  · intro scope other others lines perm idle
    have unclosed : ∀ line ∈ others, closes (Text.trim line) = false := by
      intro line member
      cases nothing : carriesNothing (Text.trim line) with
      | true => exact closes_eq_false_of_carriesNothing nothing (idle line member nothing)
      | false =>
          have entry : line ∈ entryLines others := List.mem_filter.mpr ⟨member, by simp [nothing]⟩
          exact cut.unclosed line (List.mem_of_mem_filter (perm.mem_iff.mp entry))
    exact cut.parse_eq_ok_of_perm accepted ⟨lines, cut.unmarked, cut.marked, unclosed,
      cut.closed⟩ perm scope

namespace Shuffled

/-- The lines of two entries. -/
def block : List (List Char) :=
  ["  zeInit_id=1,".toList, "  zeInit_v2_id = +7 ,".toList]

/-- The same entries the other way round, with a comment and a blank line. -/
def others : List (List Char) :=
  ["  zeInit_v2_id = +7 ,".toList, "  // zeOpen_id=3,".toList, [], "  zeInit_id=1,".toList]

/-- A header with some lines of entries. -/
def header (lines : List (List Char)) : String :=
  String.ofList (Text.unlines
    (["// ze_api.h".toList, "  reserved_driver_levelzero_id=0,".toList] ++ lines ++
      ["\x7d pti_api_id_driver_levelzero;".toList]))

theorem lines_header {lines : List (List Char)} (inline : ∀ line ∈ lines, '\n' ∉ line)
    (kept : ∀ line ∈ lines, line.getLast? ≠ some '\r') :
    Text.lines (header lines).toList =
      ["// ze_api.h".toList] ++ "  reserved_driver_levelzero_id=0,".toList ::
        (lines ++ ["\x7d pti_api_id_driver_levelzero;".toList]) := by
  rw [header, String.toList_ofList, Text.lines_unlines]
  · rfl
  · simp only [List.forall_mem_append]
    exact ⟨⟨by decide +kernel, inline⟩, by decide +kernel⟩
  · simp only [List.forall_mem_append]
    exact ⟨⟨by decide +kernel, kept⟩, by decide +kernel⟩

theorem entryBlock_header :
    EntryBlock (Text.lines (header block).toList) ["// ze_api.h".toList]
      "  reserved_driver_levelzero_id=0,".toList block
        ["\x7d pti_api_id_driver_levelzero;".toList] :=
  ⟨lines_header (by decide +kernel) (by decide +kernel), by decide +kernel, by decide +kernel,
    by decide +kernel, by decide +kernel⟩

end Shuffled

theorem parse_reads_entryLines_shuffled :
    ∃ map, parse "ids.h" (Shuffled.header Shuffled.block) = .ok map ∧
      Text.trim (Shuffled.header Shuffled.block).toList ≠ [] ∧
      map.entries = [("zeInit", 1), ("zeInit_v2", 7)] ∧
      parse "ids.h" (Shuffled.header Shuffled.others) = .ok map := by
  have read : (parse "ids.h" (Shuffled.header Shuffled.block)).toOption.map entries =
      some [("zeInit", 1), ("zeInit_v2", 7)] := by
    decide +kernel
  obtain ⟨map, accepted, shipped⟩ := exists_of_map_toOption read
  have solid : Text.trim (Shuffled.header Shuffled.block).toList ≠ [] := by decide +kernel
  obtain ⟨_, reads⟩ := parse_reads_entryLines accepted solid
  have inline : ∀ line ∈ Shuffled.others, '\n' ∉ line := by decide +kernel
  have kept : ∀ line ∈ Shuffled.others, line.getLast? ≠ some '\r' := by decide +kernel
  have perm : (entryLines Shuffled.others).Perm (entryLines Shuffled.block) := by decide +kernel
  obtain ⟨_, alike⟩ := reads _ _ _ _ Shuffled.entryBlock_header
  exact ⟨map, accepted, solid, shipped,
    alike "ids.h" _ Shuffled.others (Shuffled.lines_header inline kept) perm (by decide +kernel)⟩

end IdMap

end ApiTrace
