import ApiTrace.Proofs.Header.CommentState
import ApiTrace.Proofs.Header.TrailingComment

/-!
# The grammar of conditional lines

A stretch of a header can be read if the directives in it form blocks that are not nested: `#if`,
`#ifdef` or `#ifndef` with a condition, at most one `#else`, and `#endif`. The grammar is stated on
the code that the automaton of comments finds on the lines. It says which line belongs to which
block, so what is kept of a stretch is what is kept of its pieces. `Directive.ofLine?` recognizes
directives by their keywords, one keyword at a time.
-/

namespace ApiTrace

namespace Header

/-! ## Directives -/

/-- The text behind the number sign, optional blanks and a keyword, if a blank or the end of the
line follows the keyword. -/
def afterKeyword? (keyword : String) : List Char → Option (List Char)
  | '#' :: text =>
    (keyword.toList.isPrefixOf? (Text.trimStart text)).filter fun rest =>
      rest.head?.all Text.isBlank
  | _ => none

/-- The keywords of conditionals, each with the directive that the text behind it makes. -/
def keywords : List (String × (List Char → Directive)) :=
  [("if", .opening .holds), ("ifdef", .opening .isDefined), ("ifndef", .opening .isNotDefined),
    ("else", fun _ => .alternative), ("elif", fun _ => .elif), ("endif", fun _ => .ending)]

/-- The directive of a conditional that a line is. -/
def Directive.ofLine? (line : List Char) : Option Directive :=
  keywords.findSome? fun (keyword, directive) =>
    (afterKeyword? keyword line).map fun rest => directive (Text.trim rest)

/-- A keyword is found where the first word is the keyword. -/
theorem afterKeyword?_sign {keyword : String} (solid : keyword.toList.all fun c => !Text.isBlank c)
    (text : List Char) :
    afterKeyword? keyword ('#' :: text) =
      if (Text.trimStart text).takeWhile (fun c => !Text.isBlank c) = keyword.toList then
        some ((Text.trimStart text).dropWhile fun c => !Text.isBlank c)
      else none := by
  have keywordSolid := List.all_eq_true.mp solid
  rw [afterKeyword?]
  cases found : keyword.toList.isPrefixOf? (Text.trimStart text) with
  | none =>
      rw [if_neg]
      · rfl
      · intro same
        have split := List.takeWhile_append_dropWhile (p := fun c => !Text.isBlank c)
          (l := Text.trimStart text)
        rw [same] at split
        rw [← split, Text.isPrefixOf?_append_self] at found
        contradiction
  | some rest =>
      rw [Text.append_of_isPrefixOf?_eq_some found, List.takeWhile_append_of_pos keywordSolid,
        List.dropWhile_append_of_pos keywordSolid]
      cases rest with
      | nil => simp
      | cons c rest =>
          by_cases blank : Text.isBlank c
          · simp [blank]
          · simp [blank]

/-- The keywords one at a time and the first word at once give the same directive. -/
theorem Directive.ofLine?_sign (text : List Char) :
    ofLine? ('#' :: text) =
      match ofText text with
      | .other => none
      | directive => some directive := by
  simp (disch := decide) only [ofLine?, keywords, List.findSome?_cons, List.findSome?_nil,
    afterKeyword?_sign]
  rw [ofText]
  generalize (Text.trimStart text).takeWhile (fun c => !Text.isBlank c) = keyword
  split_ifs <;> rfl

/-- A line without number sign is no directive. -/
theorem Directive.ofLine?_eq_none {line : List Char} (unsigned : ∀ text, line ≠ '#' :: text) :
    ofLine? line = none := by
  have noKeyword (keyword : String) : afterKeyword? keyword line = none := by
    unfold afterKeyword?
    split
    · exact absurd rfl (unsigned _)
    · rfl
  rw [ofLine?, List.findSome?_eq_none_iff]
  intro entry _
  exact Option.map_eq_none_iff.mpr (noKeyword entry.1)

/-- The directives of lines, with the conditions trimmed. -/
theorem Directive.ofLine?_cases {line : List Char} {directive : Directive}
    (directed : ofLine? line = some directive) :
    (∃ condition expression, Text.trim expression = expression ∧
        directive = .opening condition expression) ∨
      directive = .alternative ∨ directive = .elif ∨ directive = .ending := by
  obtain ⟨⟨keyword, make⟩, member, found⟩ := List.exists_of_findSome?_eq_some directed
  obtain ⟨rest, -, rfl⟩ := Option.map_eq_some_iff.mp found
  have trimmed := Text.trim_trim rest
  simp only [keywords, List.mem_cons, List.not_mem_nil, or_false, Prod.mk.injEq] at member
  rcases member with ⟨-, rfl⟩ | ⟨-, rfl⟩ | ⟨-, rfl⟩ | ⟨-, rfl⟩ | ⟨-, rfl⟩ | ⟨-, rfl⟩
  · exact .inl ⟨.holds, _, trimmed, rfl⟩
  · exact .inl ⟨.isDefined, _, trimmed, rfl⟩
  · exact .inl ⟨.isNotDefined, _, trimmed, rfl⟩
  · exact .inr (.inl rfl)
  · exact .inr (.inr (.inl rfl))
  · exact .inr (.inr (.inr rfl))

/-- A condition as the guard of its block spells it. -/
def Condition.spell : Condition → List Char → String
  | .holds, expression => String.ofList expression
  | .isDefined, name => "defined(" ++ String.ofList name ++ ")"
  | .isNotDefined, name => "!defined(" ++ String.ofList name ++ ")"

/-- The guard of a condition is the condition as it is spelled. -/
theorem Condition.guard_of_ofLine? {line expression : List Char} {condition : Condition}
    (opens : Directive.ofLine? line = some (.opening condition expression)) :
    condition.guard expression = ⟨condition.spell expression⟩ := by
  obtain ⟨_, _, trimmed, same⟩ | other | other | other := Directive.ofLine?_cases opens
  · cases same
    cases condition <;>
      simp only [guard, spell, Guard.ofExpression, Guard.defined, Guard.notDefined, trimmed]
  · contradiction
  · contradiction
  · contradiction

/-! ## Lines without comments -/

/-- The code on lines that are read from a state of the automaton on, without outer blanks. -/
def plainLines (state : CommentState) (lines : List NumberedLine) : List NumberedLine :=
  List.zipWith (fun line read => ⟨line.number, Text.trim read.1⟩) lines
    (state.readLines (lines.map NumberedLine.text))

/-- The code on the first line, and the state in which the others are read, are what the removal of
comments makes of that line. -/
theorem plainLines_ofOpen_cons (inComment : Bool) (line : NumberedLine)
    (lines : List NumberedLine) :
    plainLines (.ofOpen inComment) (line :: lines) =
      ⟨line.number, Text.trim (stripComments inComment line.text).1⟩ ::
        plainLines (.ofOpen (stripComments inComment line.text).2) lines := by
  rw [stripComments_eq_read_ofOpen inComment line.text, Prod.map_fst, Prod.map_snd,
    CommentState.ofOpen_isOpen]
  rfl

/-- What is kept of a line under a guard: nothing of a blank line and of a line with a number sign.
-/
def keptUnder (guard : Option Guard) (line : NumberedLine) : Option GuardedLine :=
  match line.text with
  | [] => none
  | '#' :: _ => none
  | text => some ⟨line.number, text, guard⟩

/-- What is kept of a line in a branch. -/
def Branch.keeps : Branch → NumberedLine → Option GuardedLine
  | .outside, line => keptUnder none line
  | .kept guard _, line => keptUnder (some guard) line
  | .dropped _, _ => none

/-- What is kept of lines without comments, from a branch on; none if a directive does not fit. -/
def keepPlain : Branch → List NumberedLine → Option (List GuardedLine)
  | .outside, [] => some []
  | _, [] => none
  | branch, line :: lines =>
    match Directive.ofLine? line.text with
    | none => (keepPlain branch lines).map ((branch.keeps line).toList ++ ·)
    | some directive => (branch.follow line directive).toOption.bind fun next =>
      keepPlain next lines

section KeepPlain

variable {branch : Branch} {line : NumberedLine} {lines : List NumberedLine}

theorem keepPlain_cons_of_none (plain : Directive.ofLine? line.text = none) :
    keepPlain branch (line :: lines) =
      (keepPlain branch lines).map ((branch.keeps line).toList ++ ·) := by
  rw [keepPlain, plain]

theorem keepPlain_cons_of_some {directive : Directive} {next : Branch}
    (directed : Directive.ofLine? line.text = some directive)
    (followed : branch.follow line directive = .ok next) :
    keepPlain branch (line :: lines) = keepPlain next lines := by
  rw [keepPlain, directed]
  dsimp only
  rw [followed]
  rfl

/-- A line of which no guard keeps anything is skipped. -/
theorem keepPlain_skip (plain : Directive.ofLine? line.text = none)
    (skipped : ∀ guard, keptUnder guard line = none) :
    keepPlain branch (line :: lines) = keepPlain branch lines := by
  have dropped : branch.keeps line = none := by
    cases branch with
    | outside => exact skipped none
    | kept guard opener => exact skipped (some guard)
    | dropped opener => rfl
  rw [keepPlain_cons_of_none plain, dropped]
  cases keepPlain branch lines <;> rfl

end KeepPlain

/-- What is kept of a line that is neither blank nor starts with a number sign. -/
theorem keptUnder_eq_some (line : NumberedLine) (guard : Option Guard) (solid : line.text ≠ [])
    (unsigned : ∀ text, line.text ≠ '#' :: text) :
    keptUnder guard line = some ⟨line.number, line.text, guard⟩ := by
  unfold keptUnder
  split
  · contradiction
  · exact absurd ‹_› (unsigned _)
  · rfl

/-- The kept lines depend on the lines without comments only. -/
theorem toOption_keepLines_eq (file : String) (inComment : Bool) {first second : Branch}
    (alike : first.Alike second) (lines : List NumberedLine) :
    (keepLines file inComment first lines).toOption =
      keepPlain second (plainLines (.ofOpen inComment) lines) := by
  induction lines generalizing inComment first second with
  | nil => cases alike <;> rfl
  | cons line lines ih =>
      rw [plainLines_ofOpen_cons, keepLines]
      generalize Text.trim (stripComments inComment line.text).1 = code
      split
      · have named : Directive.ofLine? [] = none := rfl
        rw [keepPlain_skip named fun _ => rfl]
        exact ih _ alike
      · rename_i text
        have named := Directive.ofLine?_sign text
        split at named
        · rename_i other
          rw [keepPlain_skip named fun _ => rfl, other]
          exact ih _ alike
        · rw [keepPlain, named]
          obtain ⟨next, after, followed, followedAlike, nextAlike⟩ | ⟨fault, failed, failedAlike⟩ :=
            alike.follow line ⟨line.number, '#' :: text⟩ (.ofText text)
          · simp only [followed, followedAlike, ih _ nextAlike]
            rfl
          · simp only [failed, failedAlike]
            rfl
      · rename_i solid unsigned
        have named : Directive.ofLine? code = none :=
          Directive.ofLine?_eq_none fun text signed => unsigned text signed
        have kept (guard : Option Guard) :=
          keptUnder_eq_some ⟨line.number, code⟩ guard solid unsigned
        rw [keepPlain_cons_of_none named]
        cases alike with
        | outside =>
            rw [toOption_map, ih _ .outside, Branch.keeps, kept]
            rfl
        | kept guard first second =>
            rw [toOption_map, ih _ (.kept guard first second), Branch.keeps, kept]
            rfl
        | dropped first second =>
            rw [ih _ (.dropped first second)]
            exact Option.map_id'.symm

/-! ## The grammar -/

/-- The lines from `#else` on, without the end of the block. -/
structure ElseBranch where
  separator : NumberedLine
  separates : Directive.ofLine? separator.text = some .alternative
  body : List NumberedLine
  plain : ∀ line ∈ body, Directive.ofLine? line.text = none

/-- The lines of a block. -/
structure ConditionalBlock where
  opener : NumberedLine
  condition : Condition
  expression : List Char
  opens : Directive.ofLine? opener.text = some (.opening condition expression)
  nonempty : expression ≠ []
  body : List NumberedLine
  plain : ∀ line ∈ body, Directive.ofLine? line.text = none
  otherwise : Option ElseBranch
  closer : NumberedLine
  closes : Directive.ofLine? closer.text = some .ending

/-- A piece of a stretch: a block or a line outside of blocks. -/
inductive Piece where
  | single (line : NumberedLine) (plain : Directive.ofLine? line.text = none)
  | conditional (block : ConditionalBlock)

def ElseBranch.lines (branch : ElseBranch) : List NumberedLine :=
  branch.separator :: branch.body

def ConditionalBlock.lines (block : ConditionalBlock) : List NumberedLine :=
  block.opener :: block.body ++ block.otherwise.elim [] ElseBranch.lines ++ [block.closer]

def Piece.lines : Piece → List NumberedLine
  | .single line _ => [line]
  | .conditional block => block.lines

/-- What is kept of a piece; of a block, only what stands under its condition. -/
def Piece.kept : Piece → List GuardedLine
  | .single line _ => (keptUnder none line).toList
  | .conditional block =>
    block.body.filterMap (keptUnder (some ⟨block.condition.spell block.expression⟩))

/-- The directives of a block. -/
structure BlockShape where
  condition : Condition
  expression : List Char
  hasElse : Bool

/-- The directives behind the opening one. -/
def completion : Bool → List Directive
  | false => [.ending]
  | true => [.alternative, .ending]

def BlockShape.directives (shape : BlockShape) : List Directive :=
  .opening shape.condition shape.expression :: completion shape.hasElse

/-- Directives that form blocks with conditions, one behind the other. -/
structure FlatConditionals (directives : List Directive) : Prop where
  without_elif : .elif ∉ directives
  nonempty : ∀ condition expression, .opening condition expression ∈ directives → expression ≠ []
  blocks : ∃ shapes : List BlockShape, directives = shapes.flatMap BlockShape.directives

/-! ## Pieces are kept one by one -/

theorem keepPlain_append_of_plain {lines : List NumberedLine} (branch : Branch)
    (plain : ∀ line ∈ lines, Directive.ofLine? line.text = none) (rest : List NumberedLine) :
    keepPlain branch (lines ++ rest) =
      (keepPlain branch rest).map (lines.filterMap branch.keeps ++ ·) := by
  induction lines with
  | nil => exact Option.map_id'.symm
  | cons line lines ih =>
      obtain ⟨linePlain, restPlain⟩ := List.forall_mem_cons.mp plain
      rw [List.cons_append, keepPlain_cons_of_none linePlain, ih restPlain, Option.map_map,
        List.filterMap_cons]
      cases branch.keeps line <;> rfl

/-- Of the lines behind `#else`, none is kept. -/
theorem keepPlain_dropped {lines : List NumberedLine} (opener : NumberedLine)
    (plain : ∀ line ∈ lines, Directive.ofLine? line.text = none) (rest : List NumberedLine) :
    keepPlain (.dropped opener) (lines ++ rest) = keepPlain (.dropped opener) rest := by
  have none : lines.filterMap (Branch.dropped opener).keeps = [] :=
    List.filterMap_eq_nil_iff.mpr fun _ _ => rfl
  rw [keepPlain_append_of_plain _ plain, none]
  exact Option.map_id'

theorem keepPlain_block (block : ConditionalBlock) (rest : List NumberedLine) :
    keepPlain .outside (block.lines ++ rest) =
      (keepPlain .outside rest).map ((Piece.conditional block).kept ++ ·) := by
  have followed : Branch.outside.follow block.opener (.opening block.condition block.expression) =
      .ok (.kept ⟨block.condition.spell block.expression⟩ block.opener) := by
    rw [Branch.follow, if_neg (by simpa using block.nonempty),
      Condition.guard_of_ofLine? block.opens]
  rw [ConditionalBlock.lines, List.cons_append, List.cons_append, List.cons_append,
    keepPlain_cons_of_some block.opens followed, List.append_assoc, List.append_assoc,
    keepPlain_append_of_plain _ block.plain, Piece.kept]
  cases block.otherwise with
  | none => exact congrArg _ (keepPlain_cons_of_some block.closes rfl)
  | some branch =>
      rw [Option.elim_some, ElseBranch.lines, List.cons_append,
        keepPlain_cons_of_some branch.separates rfl, keepPlain_dropped _ branch.plain]
      exact congrArg _ (keepPlain_cons_of_some block.closes rfl)

/-- What is kept of pieces is what is kept of each of them. -/
theorem keepPlain_pieces (pieces : List Piece) :
    keepPlain .outside (pieces.flatMap Piece.lines) = some (pieces.flatMap Piece.kept) := by
  induction pieces with
  | nil => rfl
  | cons piece pieces ih =>
      rw [List.flatMap_cons, List.flatMap_cons]
      cases piece with
      | single line plain =>
          rw [Piece.lines, List.singleton_append, keepPlain_cons_of_none plain, ih]
          rfl
      | conditional block =>
          rw [Piece.lines, keepPlain_block, ih]
          rfl

/-! ## Directives in blocks -/

/-- The directives of lines. -/
def directivesOf (lines : List NumberedLine) : List Directive :=
  lines.filterMap fun line => Directive.ofLine? line.text

theorem directivesOf_cons_of_none {line : NumberedLine} {lines : List NumberedLine}
    (plain : Directive.ofLine? line.text = none) :
    directivesOf (line :: lines) = directivesOf lines :=
  List.filterMap_cons_none plain

theorem directivesOf_cons_of_some {line : NumberedLine} {lines : List NumberedLine}
    {directive : Directive} (directed : Directive.ofLine? line.text = some directive) :
    directivesOf (line :: lines) = directive :: directivesOf lines :=
  List.filterMap_cons_some directed

/-- The lines around the first directive. -/
theorem split_of_directivesOf_eq_cons {lines : List NumberedLine} {directive : Directive}
    {directives : List Directive} (directed : directivesOf lines = directive :: directives) :
    ∃ before line behind, lines = before ++ line :: behind ∧
      (∀ line ∈ before, Directive.ofLine? line.text = none) ∧
        Directive.ofLine? line.text = some directive ∧ directivesOf behind = directives :=
  List.filterMap_eq_cons_iff.mp directed

/-- The directives that complete a branch and may then open more blocks. -/
def Branch.Completes (directives : List Directive) : Branch → Prop
  | .outside => ∃ shapes : List BlockShape, directives = shapes.flatMap BlockShape.directives
  | .kept _ _ => ∃ (hasElse : Bool) (shapes : List BlockShape),
      directives = completion hasElse ++ shapes.flatMap BlockShape.directives
  | .dropped _ => ∃ shapes : List BlockShape,
      directives = .ending :: shapes.flatMap BlockShape.directives

/-- A directive that can be followed stands in front of what completes the branch behind it. -/
theorem Branch.completes_cons {branch next : Branch} {line : NumberedLine} {directive : Directive}
    {directives : List Directive} (directed : Directive.ofLine? line.text = some directive)
    (followed : branch.follow line directive = .ok next) (completes : next.Completes directives) :
    branch.Completes (directive :: directives) ∧ directive ≠ .elif ∧
      ∀ condition expression, directive = .opening condition expression → expression ≠ [] := by
  obtain ⟨condition, expression, -, rfl⟩ | rfl | rfl | rfl := Directive.ofLine?_cases directed
  · cases branch with
    | outside =>
        by_cases empty : expression.isEmpty
        · rw [follow, if_pos empty] at followed
          contradiction
        · rw [follow, if_neg empty] at followed
          cases followed
          obtain ⟨hasElse, shapes, rfl⟩ := completes
          refine ⟨⟨⟨condition, expression, hasElse⟩ :: shapes, rfl⟩, nofun, ?_⟩
          rintro _ _ ⟨⟩ rfl
          exact empty rfl
    | kept guard opener => contradiction
    | dropped opener => contradiction
  · cases branch with
    | outside => contradiction
    | kept guard opener =>
        cases followed
        obtain ⟨shapes, rfl⟩ := completes
        exact ⟨⟨true, shapes, rfl⟩, nofun, nofun⟩
    | dropped opener => contradiction
  · contradiction
  · cases branch with
    | outside => contradiction
    | kept guard opener =>
        cases followed
        obtain ⟨shapes, rfl⟩ := completes
        exact ⟨⟨false, shapes, rfl⟩, nofun, nofun⟩
    | dropped opener =>
        cases followed
        obtain ⟨shapes, rfl⟩ := completes
        exact ⟨⟨shapes, rfl⟩, nofun, nofun⟩

/-- The directives of lines that can be read complete the branch where the reading starts. -/
theorem completes_of_keepPlain {branch : Branch} {lines : List NumberedLine}
    {kept : List GuardedLine}
    (read : keepPlain branch lines = some kept) :
    branch.Completes (directivesOf lines) ∧ .elif ∉ directivesOf lines ∧
      ∀ condition expression, .opening condition expression ∈ directivesOf lines →
        expression ≠ [] := by
  induction lines generalizing branch kept with
  | nil =>
      cases branch with
      | outside => exact ⟨⟨[], rfl⟩, List.not_mem_nil, nofun⟩
      | kept guard opener => contradiction
      | dropped opener => contradiction
  | cons line lines ih =>
      cases directed : Directive.ofLine? line.text with
      | none =>
          rw [keepPlain_cons_of_none directed] at read
          obtain ⟨rest, restRead, -⟩ := Option.map_eq_some_iff.mp read
          rw [directivesOf_cons_of_none directed]
          exact ih restRead
      | some directive =>
          rw [keepPlain, directed] at read
          obtain ⟨next, followed, restRead⟩ := Option.bind_eq_some_iff.mp read
          obtain ⟨completes, restElif, restNonempty⟩ := ih restRead
          obtain ⟨lineCompletes, noElif, nonempty⟩ :=
            Branch.completes_cons directed (toOption_eq_some_iff.mp followed) completes
          rw [directivesOf_cons_of_some directed]
          refine ⟨lineCompletes, ?_, fun condition expression member => ?_⟩
          · exact List.not_mem_cons_of_ne_of_not_mem noElif.symm restElif
          · rcases List.mem_cons.mp member with same | member
            · exact nonempty condition expression same.symm
            · exact restNonempty condition expression member

theorem flatConditionals_of_keepPlain {lines : List NumberedLine} {kept : List GuardedLine}
    (read : keepPlain .outside lines = some kept) : FlatConditionals (directivesOf lines) :=
  have ⟨completes, withoutElif, nonempty⟩ := completes_of_keepPlain read
  ⟨withoutElif, nonempty, completes⟩

/-- Lines without directives are pieces of their own. -/
theorem exists_pieces_of_plain {lines : List NumberedLine}
    (plain : ∀ line ∈ lines, Directive.ofLine? line.text = none) :
    ∃ pieces : List Piece, lines = pieces.flatMap Piece.lines := by
  induction lines with
  | nil => exact ⟨[], rfl⟩
  | cons line lines ih =>
      obtain ⟨linePlain, restPlain⟩ := List.forall_mem_cons.mp plain
      obtain ⟨pieces, rfl⟩ := ih restPlain
      exact ⟨.single line linePlain :: pieces, rfl⟩

/-- Lines whose directives form blocks fall into pieces. -/
theorem exists_pieces {shapes : List BlockShape}
    (nonempty : ∀ shape ∈ shapes, shape.expression ≠ [])
    {lines : List NumberedLine}
    (directed : directivesOf lines = shapes.flatMap BlockShape.directives) :
    ∃ pieces : List Piece, lines = pieces.flatMap Piece.lines := by
  induction shapes generalizing lines with
  | nil => exact exists_pieces_of_plain (List.filterMap_eq_nil_iff.mp directed)
  | cons shape shapes ih =>
      obtain ⟨shapeNonempty, restNonempty⟩ := List.forall_mem_cons.mp nonempty
      rw [List.flatMap_cons, BlockShape.directives, List.cons_append] at directed
      obtain ⟨before, opener, behind, rfl, beforePlain, opens, completed⟩ :=
        split_of_directivesOf_eq_cons directed
      obtain ⟨pieces, rfl⟩ := exists_pieces_of_plain beforePlain
      cases hasElse : shape.hasElse with
      | false =>
          rw [hasElse] at completed
          obtain ⟨body, closer, rest, rfl, plain, closes, following⟩ :=
            split_of_directivesOf_eq_cons completed
          obtain ⟨others, rfl⟩ := ih restNonempty following
          let block : ConditionalBlock :=
            ⟨opener, _, _, opens, shapeNonempty, body, plain, none, closer, closes⟩
          refine ⟨pieces ++ .conditional block :: others, ?_⟩
          simp [Piece.lines, ConditionalBlock.lines, block]
      | true =>
          rw [hasElse] at completed
          obtain ⟨body, separator, behind, rfl, plain, separates, ended⟩ :=
            split_of_directivesOf_eq_cons completed
          obtain ⟨dropped, closer, rest, rfl, droppedPlain, closes, following⟩ :=
            split_of_directivesOf_eq_cons ended
          obtain ⟨others, rfl⟩ := ih restNonempty following
          let block : ConditionalBlock :=
            ⟨opener, _, _, opens, shapeNonempty, body, plain,
              some ⟨separator, separates, dropped, droppedPlain⟩, closer, closes⟩
          refine ⟨pieces ++ .conditional block :: others, ?_⟩
          simp [Piece.lines, ConditionalBlock.lines, ElseBranch.lines, block]

theorem FlatConditionals.exists_pieces {lines : List NumberedLine}
    (flat : FlatConditionals (directivesOf lines)) :
    ∃ pieces : List Piece, lines = pieces.flatMap Piece.lines := by
  obtain ⟨shapes, directed⟩ := flat.blocks
  refine Header.exists_pieces (fun shape member => ?_) directed
  apply flat.nonempty shape.condition
  rw [directed]
  exact List.mem_flatMap.mpr ⟨shape, member, List.mem_cons_self⟩

/-! ## A stretch of a header -/

theorem guardedLines_eq_ok_iff (header : Header) (span : Span) (kept : List GuardedLine) :
    header.guardedLines span = .ok kept ↔
      keepPlain .outside (plainLines .code (header.slice span)) = some kept := by
  have read : (header.guardedLines span).toOption =
      keepPlain .outside (plainLines .code (header.slice span)) :=
    toOption_keepLines_eq header.name false .outside (header.slice span)
  rw [← read, toOption_eq_some_iff]

/-- A stretch can be read exactly if the directives in it form flat blocks with conditions. What is
kept is then what is kept of the pieces it falls into: a line outside of blocks without guard, a
line under a condition with this condition as its guard, and nothing else. -/
theorem guardedLines_accepts_flat (header : Header) (span : Span) :
    ((∃ kept, header.guardedLines span = .ok kept) ↔
        FlatConditionals (directivesOf (plainLines .code (header.slice span)))) ∧
      ∀ kept, header.guardedLines span = .ok kept ↔
        ∃ pieces : List Piece,
          plainLines .code (header.slice span) = pieces.flatMap Piece.lines ∧
            kept = pieces.flatMap Piece.kept := by
  simp only [guardedLines_eq_ok_iff]
  generalize plainLines .code (header.slice span) = lines
  constructor
  · constructor
    · rintro ⟨kept, read⟩
      exact flatConditionals_of_keepPlain read
    · intro flat
      obtain ⟨pieces, rfl⟩ := flat.exists_pieces
      exact ⟨_, keepPlain_pieces pieces⟩
  · intro kept
    constructor
    · intro read
      obtain ⟨pieces, rfl⟩ := (flatConditionals_of_keepPlain read).exists_pieces
      rw [keepPlain_pieces] at read
      exact ⟨pieces, rfl, (Option.some.inj read).symm⟩
    · rintro ⟨pieces, rfl, rfl⟩
      exact keepPlain_pieces pieces

-- A directive behind a comment counts, another one inside of it does not.
example : ((⟨"ze_api.h", ["/* #if */ # ifdef A /* one".toList, "#else */ int a; // b".toList,
    "#else".toList, "int b;".toList, "#endif".toList, "int c;".toList]⟩ : Header).guardedLines
      ⟨0, 6⟩).toOption =
    some [⟨2, "int a;".toList, some ⟨"defined(A)"⟩⟩, ⟨6, "int c;".toList, none⟩] := by
  decide +kernel

end Header

end ApiTrace
