import ApiTrace.Header.Conditional
import ApiTrace.Proofs.Header.Comment
import ApiTrace.Proofs.Sequence

/-!
# Reading conditional lines

What a block of lines adds to the kept lines is said for the block alone, wherever it stands: a line
without comments is kept trimmed, with the guard of its branch, and a block between `#if` and
`#endif` is kept with their condition. In the other direction, every guard that is read can be
written again: it is a trimmed piece of one line without comments.
-/

namespace ApiTrace

-- A text is decided by its own characters, not by those of the whole alphabet.
attribute [local instance (high)] List.decidableBAll Option.decidableForallMem
  Option.decidableExistsMem

/-- A kept line without its number. -/
def GuardedLine.shown (line : GuardedLine) : List Char × Option Guard :=
  (line.text, line.guard)

/-! ## Guards that can be written -/

/-- A text that can stand behind `#if`: it fills a part of one line, from its first to its last
character, and opens no comment. -/
structure Header.PlainText (text : List Char) : Prop where
  trimmed : Text.trim text = text
  nonempty : text ≠ []
  free : Header.CommentFree text
  inline : '\n' ∉ text

/-- A guard that can be written. -/
def Guard.Plain (guard : Guard) : Prop :=
  Header.PlainText guard.condition.toList

namespace Header

theorem PlainText.guard {text : List Char} (plain : PlainText text) :
    Guard.Plain ⟨String.ofList text⟩ := by
  rw [Guard.Plain, String.toList_ofList]
  exact plain

/-- A text in brackets, behind another one. -/
theorem PlainText.bracketed {opening text : List Char} (free : CommentFree text)
    (inline : '\n' ∉ text) (openingFree : CommentFree opening) (openingInline : '\n' ∉ opening)
    (solid : ∀ c ∈ (opening ++ ['(']).head?, Text.isBlank c = false) :
    PlainText (opening ++ '(' :: text ++ [')']) where
  trimmed := by
    apply Text.trim_eq_self_of_ends
    · intro c first
      apply solid c
      cases opening with
      | nil => exact first
      | cons d opening => exact first
    · intro c last
      rw [List.getLast?_concat] at last
      cases last
      decide
  nonempty := by simp
  free := (openingFree.append_cons (by decide) (by decide) free).append_cons (by decide) (by decide)
    (commentFree_of_not_mem List.not_mem_nil)
  inline := by simp [openingInline, inline]

end Header

namespace Guard

open Header

theorem plain_condition_guard (condition : Condition) {expression : List Char}
    (plain : PlainText expression) : (condition.guard expression).Plain := by
  have asked (word : List Char) {guard : Guard}
      (spelled : guard.condition.toList = word ++ '(' :: expression ++ [')'])
      (free : CommentFree word) (inline : '\n' ∉ word)
      (solid : ∀ c ∈ (word ++ ['(']).head?, Text.isBlank c = false) : guard.Plain := by
    rw [Guard.Plain, spelled]
    exact .bracketed plain.free plain.inline free inline solid
  cases condition with
  | holds =>
      rw [Condition.guard, ofExpression, plain.trimmed]
      exact plain.guard
  | isDefined =>
      refine asked "defined".toList ?_ (commentFree_of_not_mem (by decide)) (by decide) (by decide)
      simp [Condition.guard, defined, plain.trimmed]
  | isNotDefined =>
      refine asked "!defined".toList ?_ (commentFree_of_not_mem (by decide)) (by decide) (by decide)
      simp [Condition.guard, notDefined, plain.trimmed]

/-- Two guards that can be written can be written as one. -/
theorem plain_compose {outer inner : Option Guard} (outerPlain : ∀ guard ∈ outer, guard.Plain)
    (innerPlain : ∀ guard ∈ inner, guard.Plain) : ∀ guard ∈ compose outer inner, guard.Plain := by
  cases outer with
  | none => exact innerPlain
  | some outer =>
      cases inner with
      | none => exact outerPlain
      | some inner =>
          have outerIs := outerPlain outer rfl
          have innerIs := innerPlain inner rfl
          intro guard composed
          rw [compose] at composed
          split at composed
          · cases composed
            exact outerIs
          · cases composed
            have spelled : "(" ++ outer.condition ++ ") && (" ++ inner.condition ++ ")" =
                String.ofList (('(' :: outer.condition.toList ++ ')' :: " && ".toList) ++
                  '(' :: inner.condition.toList ++ [')']) := by
              rw [← String.toList_inj]
              simp
            rw [spelled]
            refine (PlainText.bracketed innerIs.free innerIs.inline ?_ ?_ ?_).guard
            · have start : CommentFree ([] ++ '(' :: outer.condition.toList) :=
                (commentFree_of_not_mem List.not_mem_nil).append_cons (by decide) (by decide)
                  outerIs.free
              exact start.append_cons (by decide) (by decide) (commentFree_of_not_mem (by decide))
            · simp [outerIs.inline]
            · simp [Text.isBlank]

end Guard

namespace Header

/-- The condition in a directive is a part of its line. -/
theorem plain_of_directive {text expression : List Char} {condition : Condition}
    (free : CommentFree text) (inline : '\n' ∉ text)
    (opened : Directive.ofText text = .opening condition expression) (nonempty : expression ≠ []) :
    PlainText expression := by
  have cut : expression = Text.trim ((Text.trimStart text).dropWhile fun c => !Text.isBlank c) := by
    unfold Directive.ofText at opened
    dsimp only at opened
    split at opened
    · exact (Directive.opening.inj opened).2.symm
    split at opened
    · exact (Directive.opening.inj opened).2.symm
    split at opened
    · exact (Directive.opening.inj opened).2.symm
    split at opened
    · contradiction
    split at opened
    · contradiction
    split at opened <;> contradiction
  have within : expression <:+: text := by
    rw [cut]
    exact (Text.trim_isInfix _).trans
      ((List.dropWhile_suffix _).isInfix.trans (Text.trimStart_isSuffix text).isInfix)
  refine ⟨?_, nonempty, free.of_isInfix within, fun member => inline (within.subset member)⟩
  rw [cut, Text.trim_trim]

/-- A directive leaves the guard of a branch, ends it or puts its own condition in its place. -/
theorem Branch.guard?_of_follow {branch next : Branch} {line : NumberedLine} {directive : Directive}
    (followed : branch.follow line directive = .ok next) :
    next.guard? = branch.guard? ∨ next.guard? = none ∨
      ∃ condition expression, directive = .opening condition expression ∧ expression ≠ [] ∧
        next.guard? = some (condition.guard expression) := by
  cases directive with
  | opening condition expression =>
      cases branch with
      | outside =>
          rw [Branch.follow] at followed
          split at followed
          · contradiction
          · rename_i nonempty
            cases followed
            exact .inr (.inr ⟨condition, expression, rfl, mt List.isEmpty_iff.mpr nonempty, rfl⟩)
      | kept | dropped => contradiction
  | alternative =>
      cases branch with
      | kept guard opener =>
          cases followed
          exact .inr (.inl rfl)
      | outside | dropped => contradiction
  | elif => contradiction
  | ending =>
      cases branch with
      | outside => contradiction
      | kept | dropped =>
          cases followed
          exact .inr (.inl rfl)
  | other =>
      cases followed
      exact .inl rfl

/-- After a directive the branch still has a guard that can be written. -/
theorem plain_of_follow {branch next : Branch} {line : NumberedLine} {text : List Char}
    (free : CommentFree text) (inline : '\n' ∉ text)
    (plain : ∀ guard ∈ branch.guard?, guard.Plain)
    (followed : branch.follow line (.ofText text) = .ok next) :
    ∀ guard ∈ next.guard?, guard.Plain := by
  intro guard member
  rcases Branch.guard?_of_follow followed with left | ended |
    ⟨condition, expression, opened, nonempty, put⟩
  · rw [left] at member
    exact plain guard member
  · rw [ended] at member
    contradiction
  · rw [put] at member
    cases member
    exact Guard.plain_condition_guard condition (plain_of_directive free inline opened nonempty)

/-- Everything that is kept of lines can be written again. -/
theorem plain_of_keepLines {file : String} {inComment : Bool} {branch : Branch}
    {lines : List NumberedLine} {kept : List GuardedLine}
    (inline : ∀ line ∈ lines, '\n' ∉ line.text) (plain : ∀ guard ∈ branch.guard?, guard.Plain)
    (ended : keepLines file inComment branch lines = .ok kept) :
    ∀ line ∈ kept, '\n' ∉ line.text ∧ ∀ guard ∈ line.guard, guard.Plain := by
  induction lines generalizing inComment branch kept with
  | nil =>
      unfold keepLines at ended
      split at ended
      · cases ended
        exact fun line member => absurd member List.not_mem_nil
      · contradiction
      · contradiction
  | cons line lines ih =>
      obtain ⟨lineInline, restInline⟩ := List.forall_mem_cons.mp inline
      have strippedInline : '\n' ∉ Text.trim (stripComments inComment line.text).1 := by
        intro member
        rcases mem_of_mem_stripComments ((Text.trim_isInfix _).subset member) with blank | member
        · exact absurd blank (by decide)
        · exact lineInline member
      have strippedFree : CommentFree (Text.trim (stripComments inComment line.text).1) :=
        (commentFree_stripComments inComment line.text).of_isInfix (Text.trim_isInfix _)
      unfold keepLines at ended
      dsimp only at ended
      split at ended
      · exact ih restInline plain ended
      · rename_i text trimmed
        rw [trimmed] at strippedInline strippedFree
        have within : text <:+: '#' :: text := (List.suffix_cons '#' text).isInfix
        split at ended
        · rename_i next followed
          exact ih restInline (plain_of_follow (strippedFree.of_isInfix within)
            (fun member => strippedInline (within.subset member)) plain followed) ended
        · contradiction
      · split at ended
        · exact ih restInline plain ended
        · obtain ⟨others, rest, rfl⟩ := map_eq_ok ended
          exact List.forall_mem_cons.mpr ⟨⟨strippedInline, plain⟩, ih restInline plain rest⟩

/-! ## Blocks of lines -/

/-- A text without slashes, number signs and line ends: it opens no comment and no directive. -/
def Code (text : List Char) : Prop :=
  ∀ c ∈ text, c ≠ '/' ∧ c ≠ '#' ∧ c ≠ '\n'

instance : DecidablePred Code := fun text =>
  inferInstanceAs (Decidable (∀ c ∈ text, c ≠ '/' ∧ c ≠ '#' ∧ c ≠ '\n'))

@[simp]
theorem code_append {first second : List Char} :
    Code (first ++ second) ↔ Code first ∧ Code second :=
  List.forall_mem_append

theorem Code.not_mem {text : List Char} (code : Code text) :
    '/' ∉ text ∧ '#' ∉ text ∧ '\n' ∉ text :=
  ⟨fun member => (code _ member).1 rfl, fun member => (code _ member).2.1 rfl,
    fun member => (code _ member).2.2 rfl⟩

/-- A line of code: a text that does not end in a blank. -/
def CodeLine (line : List Char) : Prop :=
  Code line ∧ ∃ last ∈ line.getLast?, Text.isBlank last = false

instance : DecidablePred CodeLine := fun line =>
  inferInstanceAs (Decidable (Code line ∧ ∃ last ∈ line.getLast?, Text.isBlank last = false))

theorem CodeLine.append {start line : List Char} (code : Code start) (ends : CodeLine line) :
    CodeLine (start ++ line) := by
  obtain ⟨lineCode, last, isLast, solid⟩ := ends
  refine ⟨code_append.mpr ⟨code, lineCode⟩, last, ?_, solid⟩
  rw [Option.mem_def] at isLast ⊢
  rw [List.getLast?_append, isLast, Option.some_or]

/-- A line that is one line of a text again. -/
def WholeLine (line : List Char) : Prop :=
  '\n' ∉ line ∧ line.getLast? ≠ some '\r'

theorem wholeLine_of_ends {line : List Char} (inline : '\n' ∉ line) {last : Char}
    (ends : line.getLast? = some last) (solid : Text.isBlank last = false) : WholeLine line := by
  refine ⟨inline, fun carriageReturn => ?_⟩
  rw [ends] at carriageReturn
  cases carriageReturn
  contradiction

/-- Lines in this branch are kept with this guard. -/
def Branch.Gives (guard : Option Guard) : Branch → Prop
  | .outside => guard = none
  | .kept condition _ => guard = some condition
  | .dropped _ => False

/-- In a branch, a block of lines is kept as these texts with their guards, whatever follows. -/
structure Reads (branch : Branch) (block : List (List Char))
    (kept : List (List Char × Option Guard)) :
    Prop where
  whole : ∀ line ∈ block, WholeLine line
  read : ∀ file (numbered : List NumberedLine), numbered.map NumberedLine.text = block →
    ∃ guarded : List GuardedLine, guarded.map GuardedLine.shown = kept ∧
      ∀ rest, keepLines file false branch (numbered ++ rest) =
        (keepLines file false branch rest).map (guarded ++ ·)

namespace Reads

variable {branch : Branch} {guard : Option Guard}

theorem nil (branch : Branch) : Reads branch [] [] where
  whole _ member := absurd member List.not_mem_nil
  read file numbered texts := by
    rw [List.map_eq_nil_iff.mp texts]
    refine ⟨[], rfl, fun rest => ?_⟩
    rw [List.nil_append]
    cases keepLines file false branch rest <;> rfl

theorem append {first second : List (List Char)} {kept more : List (List Char × Option Guard)}
    (firstReads : Reads branch first kept) (secondReads : Reads branch second more) :
    Reads branch (first ++ second) (kept ++ more) where
  whole := List.forall_mem_append.mpr ⟨firstReads.whole, secondReads.whole⟩
  read file numbered texts := by
    obtain ⟨early, late, rfl, earlyTexts, lateTexts⟩ := List.map_eq_append_iff.mp texts
    obtain ⟨guarded, shown, kept⟩ := firstReads.read file early earlyTexts
    obtain ⟨others, othersShown, keptOthers⟩ := secondReads.read file late lateTexts
    refine ⟨guarded ++ others, by rw [List.map_append, shown, othersShown], fun rest => ?_⟩
    rw [List.append_assoc, kept, keptOthers]
    cases keepLines file false branch rest with
    | error error => rfl
    | ok more => exact congrArg Except.ok (List.append_assoc guarded others more).symm

theorem flatMap {α : Type} {items : List α} {block : α → List (List Char)}
    {kept : α → List (List Char × Option Guard)}
    (each : ∀ item ∈ items, Reads branch (block item) (kept item)) :
    Reads branch (items.flatMap block) (items.flatMap kept) := by
  induction items with
  | nil => exact nil branch
  | cons item items ih =>
      obtain ⟨itemReads, restReads⟩ := List.forall_mem_cons.mp each
      exact itemReads.append (ih restReads)

/-- A line with nothing but a comment is skipped. -/
theorem skipped {line before : List Char} (whole : WholeLine line)
    (stripped : stripComments false line = (before, false)) (blank : Text.trim before = []) :
    Reads branch [line] [] where
  whole := List.forall_mem_singleton.mpr whole
  read file numbered texts := by
    obtain ⟨numberedLine, rfl, rfl⟩ := List.map_eq_singleton_iff.mp texts
    refine ⟨[], rfl, fun rest => ?_⟩
    rw [List.singleton_append, keepLines, stripped]
    dsimp only
    rw [blank]
    cases keepLines file false branch rest <;> rfl

/-- A line of code is kept trimmed. -/
theorem line (gives : branch.Gives guard) {line : List Char} (code : CodeLine line) :
    Reads branch [line] [(Text.trim line, guard)] := by
  obtain ⟨chars, last, ends, solid⟩ := code
  obtain ⟨slash, sign, inline⟩ := chars.not_mem
  refine ⟨List.forall_mem_singleton.mpr (wholeLine_of_ends inline ends solid), ?_⟩
  intro file numbered texts
  obtain ⟨numberedLine, rfl, rfl⟩ := List.map_eq_singleton_iff.mp texts
  refine ⟨[⟨numberedLine.number, Text.trim numberedLine.text, guard⟩], rfl, fun rest => ?_⟩
  rw [List.singleton_append, keepLines, stripComments_of_free (commentFree_of_not_mem slash)]
  dsimp only
  split
  · rename_i empty
    have kept := Text.getLast?_trim ends solid
    rw [empty] at kept
    contradiction
  · rename_i text directive
    have within := (Text.trim_isInfix numberedLine.text).subset (directive ▸ List.mem_cons_self)
    exact absurd within sign
  · cases branch with
    | outside =>
        cases gives
        rfl
    | kept condition opener =>
        cases gives
        rfl
    | dropped opener => exact gives.elim

theorem lines (gives : branch.Gives guard) {block : List (List Char)}
    (code : ∀ line ∈ block, CodeLine line) :
    Reads branch block (block.map fun line => (Text.trim line, guard)) := by
  induction block with
  | nil => exact nil branch
  | cons line block ih =>
      obtain ⟨lineCode, rest⟩ := List.forall_mem_cons.mp code
      exact (Reads.line gives lineCode).append (ih rest)

end Reads

/-- A block of lines under a guard. -/
def guardBlock (guard : Option Guard) (block : List (List Char)) : List (List Char) :=
  match guard with
  | none => block
  | some guard =>
    ("#if ".toList ++ guard.condition.toList) :: block ++
      ["#endif // ".toList ++ guard.condition.toList]

/-- The last character of a condition is no blank. -/
theorem exists_getLast?_of_plain {text : List Char} (plain : PlainText text) (start : List Char) :
    ∃ last, (start ++ text).getLast? = some last ∧ Text.isBlank last = false := by
  cases ends : text.getLast? with
  | none => exact absurd (List.getLast?_eq_none_iff.mp ends) plain.nonempty
  | some last =>
      refine ⟨last, by rw [List.getLast?_append, ends, Option.some_or], ?_⟩
      exact Text.isBlank_getLast?_trim (plain.trimmed ▸ ends)

theorem trim_openLine {guard : Guard} (plain : guard.Plain) :
    Text.trim ("#if ".toList ++ guard.condition.toList) =
      '#' :: ("if ".toList ++ guard.condition.toList) := by
  have opening : "#if ".toList = '#' :: "if ".toList := by decide
  rw [opening, List.cons_append]
  apply Text.trim_eq_self_of_ends
  · intro c first
    cases first
    decide
  · intro c last
    obtain ⟨d, ends, solid⟩ := exists_getLast?_of_plain plain ('#' :: "if ".toList)
    rw [← List.cons_append, ends] at last
    cases last
    exact solid

/-- The condition behind `#if` is read as it was written. -/
theorem directive_openLine {guard : Guard} (plain : guard.Plain) :
    Directive.ofText ("if ".toList ++ guard.condition.toList) =
      .opening .holds guard.condition.toList := by
  have opening : "if ".toList = "if".toList ++ [' '] := by decide
  have start : Text.trimStart ("if ".toList ++ guard.condition.toList) =
      "if".toList ++ ' ' :: guard.condition.toList := by
    rw [opening, List.append_assoc, List.singleton_append]
    exact List.dropWhile_cons_of_neg (by decide)
  have blank : Text.trim (' ' :: guard.condition.toList) = guard.condition.toList := by
    have onlyBlank : ∀ c ∈ [' '], Text.isBlank c = true := by decide
    have dropped := Text.trim_append onlyBlank guard.condition.toList
    rw [List.singleton_append] at dropped
    exact dropped.trans plain.trimmed
  have keyword : ("if".toList ++ ' ' :: guard.condition.toList).takeWhile
      (fun c => !Text.isBlank c) = "if".toList := by
    rw [List.takeWhile_append_of_pos (by decide), List.takeWhile_cons_of_neg (by decide),
      List.append_nil]
  have rest : ("if".toList ++ ' ' :: guard.condition.toList).dropWhile
      (fun c => !Text.isBlank c) = ' ' :: guard.condition.toList := by
    rw [List.dropWhile_append_of_pos (by decide), List.dropWhile_cons_of_neg (by decide)]
  unfold Directive.ofText
  rw [start]
  dsimp only
  rw [keyword, rest, blank, if_pos rfl]

/-- The line above a block puts the lines behind it under the guard. -/
theorem keepLines_openLine {guard : Guard} (plain : guard.Plain) {opener : NumberedLine}
    (text : opener.text = "#if ".toList ++ guard.condition.toList) (file : String)
    (rest : List NumberedLine) :
    keepLines file false .outside (opener :: rest) =
      keepLines file false (.kept guard opener) rest := by
  have opened : stripComments false opener.text = (opener.text, false) := by
    apply stripComments_of_free
    have start : "#if ".toList = "#if".toList ++ [' '] := by decide
    rw [text, start, List.append_assoc, List.singleton_append]
    exact (commentFree_of_not_mem (by decide)).append_cons (by decide) (by decide) plain.free
  have condition : Condition.holds.guard guard.condition.toList = guard := by
    rw [Condition.guard, Guard.ofExpression, plain.trimmed, String.ofList_toList]
  have followed : Branch.outside.follow opener (.opening .holds guard.condition.toList) =
      .ok (.kept guard opener) := by
    rw [Branch.follow, if_neg (by simpa using plain.nonempty), condition]
  rw [keepLines, opened]
  dsimp only
  rw [text, trim_openLine plain]
  simp only [directive_openLine plain, followed]

/-- The line below a block ends the guard, whatever its comment says. -/
theorem keepLines_closeLine {closer : NumberedLine} {comment : List Char}
    (text : closer.text = "#endif // ".toList ++ comment) (file : String) (guard : Guard)
    (opener : NumberedLine) (rest : List NumberedLine) :
    keepLines file false (.kept guard opener) (closer :: rest) =
      keepLines file false .outside rest := by
  have closed : stripComments false closer.text = ("#endif ".toList, false) := by
    have start : "#endif // ".toList = "#endif ".toList ++ '/' :: '/' :: [' '] := by decide
    rw [text, start, List.append_assoc]
    exact stripComments_line (by decide) _
  rw [keepLines, closed]
  rfl

/-- A block under a guard is kept with the guard. -/
theorem Reads.under {guard : Option Guard} (plain : ∀ condition ∈ guard, condition.Plain)
    {block : List (List Char)} {kept : List (List Char × Option Guard)}
    (reads : ∀ branch : Branch, branch.Gives guard → Reads branch block kept) :
    Reads .outside (guardBlock guard block) kept := by
  cases guard with
  | none => exact reads .outside rfl
  | some guard =>
      have guardPlain := plain guard rfl
      constructor
      · rw [guardBlock, List.cons_append, List.forall_mem_cons, List.forall_mem_append,
          List.forall_mem_singleton]
        obtain ⟨_, openEnds, openSolid⟩ := exists_getLast?_of_plain guardPlain "#if ".toList
        obtain ⟨_, closeEnds, closeSolid⟩ := exists_getLast?_of_plain guardPlain "#endif // ".toList
        exact ⟨wholeLine_of_ends (by simp [guardPlain.inline]) openEnds openSolid,
          (reads (.kept guard ⟨0, []⟩) rfl).whole,
          wholeLine_of_ends (by simp [guardPlain.inline]) closeEnds closeSolid⟩
      · intro file numbered lines
        rw [guardBlock] at lines
        obtain ⟨front, back, rfl, frontTexts, backTexts⟩ := List.map_eq_append_iff.mp lines
        obtain ⟨opener, middle, rfl, openerText, middleTexts⟩ := List.map_eq_cons_iff.mp frontTexts
        obtain ⟨closer, rfl, closerText⟩ := List.map_eq_singleton_iff.mp backTexts
        obtain ⟨guarded, shown, kept⟩ :=
          (reads (.kept guard opener) rfl).read file middle middleTexts
        refine ⟨guarded, shown, fun rest => ?_⟩
        rw [List.append_assoc, List.cons_append, keepLines_openLine guardPlain openerText, kept,
          List.singleton_append, keepLines_closeLine closerText]

/-- The lines of a text, all read outside of any structure: what is kept, without numbers. -/
def keptOf (file text : String) : Except ScanError (List (List Char × Option Guard)) :=
  let header : Header := .ofText file text
  (header.guardedLines ⟨0, header.lines.length⟩).map (List.map GuardedLine.shown)

/-- A text is read line by line. -/
theorem Reads.keptOf {block : List (List Char)} {kept : List (List Char × Option Guard)}
    (reads : Reads .outside block kept) (file : String) {text : String}
    (written : text.toList = Text.unlines block) : Header.keptOf file text = .ok kept := by
  have lines : (Header.ofText file text).lines = block := by
    rw [ofText, written, Text.lines_unlines (fun line member => (reads.whole line member).1)
      fun line member => (reads.whole line member).2]
  obtain ⟨guarded, shown, read⟩ := reads.read file (Header.ofText file text).numbered
    ((map_text_numbered _).trans lines)
  have all := read []
  rw [List.append_nil] at all
  unfold Header.keptOf guardedLines
  change ((keepLines file false .outside (Header.ofText file text).numbered).map _) = _
  rw [all]
  change Except.ok ((guarded ++ []).map GuardedLine.shown) = _
  rw [List.append_nil, shown]

end Header

end ApiTrace
