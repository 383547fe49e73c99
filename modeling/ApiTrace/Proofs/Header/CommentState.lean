import ApiTrace.Proofs.Header.Comment

/-!
# Comments, character by character

The removal of comments looks for marks in what is left of a line. Here it is compared with an
automaton that reads one character after the other and knows three states: code, line comment and
block comment. A mark is two characters that are read together, so the mark that opens a comment is
no part of the one that ends it. At the end of a line a line comment is over and a block comment
goes on.
-/

namespace ApiTrace

namespace Text

theorem isPrefixOf?_pair_eq_none {first second c : Char} {text : List Char}
    (elsewhere : ∀ rest, c = first → text = second :: rest → False) :
    [first, second].isPrefixOf? (c :: text) = none := by
  rw [isPrefixOf?_cons_cons]
  split
  · rename_i same
    cases text with
    | nil => rfl
    | cons d text =>
        rw [isPrefixOf?_cons_cons, if_neg]
        intro alsoSame
        exact elsewhere text (eq_of_beq same).symm (by rw [eq_of_beq alsoSame])
  · rfl

/-- A pattern that does not start a text is looked for behind its first character. -/
theorem splitOnce?_cons {pattern text : List Char} {c : Char}
    (elsewhere : pattern.isPrefixOf? (c :: text) = none) :
    splitOnce? pattern (c :: text) =
      (splitOnce? pattern text).map fun parts => (c :: parts.1, parts.2) := by
  rw [splitOnce?, elsewhere]

end Text

namespace Header

/-! ## The automaton -/

/-- What a character belongs to. -/
inductive CommentState where
  | code
  | lineComment
  | blockComment
  deriving DecidableEq, Repr

namespace CommentState

/-- The code of a text that is read from a state on, and the state at its end. A block comment that
opens in the text leaves one blank. -/
def read : CommentState → List Char → List Char × CommentState
  | state, [] => ([], state)
  | .code, '/' :: '/' :: text => read .lineComment text
  | .code, '/' :: '*' :: text => (read .blockComment text).map (' ' :: ·) id
  | .code, c :: text => (read .code text).map (c :: ·) id
  | .lineComment, _ :: text => read .lineComment text
  | .blockComment, '*' :: '/' :: text => read .code text
  | .blockComment, _ :: text => read .blockComment text

/-- The state at the start of the next line. -/
def nextLine : CommentState → CommentState
  | .code | .lineComment => .code
  | .blockComment => .blockComment

/-- The code of each line of a sequence, with the state at its end. -/
def readLines : CommentState → List (List Char) → List (List Char × CommentState)
  | _, [] => []
  | state, line :: lines => state.read line :: (state.read line).2.nextLine.readLines lines

/-- The state at the start of a line, by whether a block comment is open there. -/
def ofOpen : Bool → CommentState
  | false => .code
  | true => .blockComment

/-- Whether a block comment is open. -/
def isOpen (state : CommentState) : Bool :=
  state = .blockComment

@[simp]
theorem isOpen_ofOpen (isOpen : Bool) : (ofOpen isOpen).isOpen = isOpen := by
  cases isOpen <;> rfl

theorem ofOpen_isOpen (state : CommentState) : ofOpen state.isOpen = state.nextLine := by
  cases state <;> rfl

theorem read_lineComment (text : List Char) : lineComment.read text = ([], .lineComment) := by
  induction text with
  | nil => rfl
  | cons c text ih => rw [read, ih]

end CommentState

/-! ## One line -/

section Line

variable {c : Char} {text : List Char}

/-- What opens the first comment of a text with one more character in front. -/
def CommentStart.cons (c : Char) : CommentStart → CommentStart
  | .absent => .absent
  | .line before => .line (c :: before)
  | .block before after => .block (c :: before) after

theorem commentStart_cons (noLine : ['/', '/'].isPrefixOf? (c :: text) = none)
    (noBlock : ['/', '*'].isPrefixOf? (c :: text) = none) :
    commentStart (c :: text) = (commentStart text).cons c := by
  unfold commentStart
  rw [Text.splitOnce?_cons noLine, Text.splitOnce?_cons noBlock]
  cases Text.splitOnce? ['/', '/'] text with
  | none => cases Text.splitOnce? ['/', '*'] text <;> rfl
  | some line =>
      cases Text.splitOnce? ['/', '*'] text with
      | none => rfl
      | some block =>
          simp only [Option.map_some, List.length_cons, Nat.add_lt_add_iff_right]
          split <;> rfl

/-- A character of code that opens no comment is kept. -/
theorem stripComments_code_cons (noLine : ['/', '/'].isPrefixOf? (c :: text) = none)
    (noBlock : ['/', '*'].isPrefixOf? (c :: text) = none) :
    stripComments false (c :: text) = (stripComments false text).map (c :: ·) id := by
  have starts := commentStart_cons noLine noBlock
  cases first : commentStart text with
  | absent =>
      rw [first] at starts
      rw [stripComments_of_absent starts, stripComments_of_absent first]
      rfl
  | line before =>
      rw [first] at starts
      rw [stripComments_of_line starts, stripComments_of_line first]
      rfl
  | block before after =>
      rw [first] at starts
      rw [stripComments_of_block starts, stripComments_of_block first]
      rfl

/-- A character of a block comment that does not end it is dropped. -/
theorem stripComments_comment_cons (unended : ['*', '/'].isPrefixOf? (c :: text) = none) :
    stripComments true (c :: text) = stripComments true text := by
  have found := Text.splitOnce?_cons unended
  cases ended : Text.splitOnce? ['*', '/'] text with
  | none =>
      rw [ended] at found
      rw [stripComments_of_unended found, stripComments_of_unended ended]
  | some parts =>
      rw [ended] at found
      rw [stripComments_of_ended found, stripComments_of_ended ended]

end Line

/-- The removal of comments from a line does what the automaton does. -/
theorem stripComments_eq_read {state : CommentState} (started : state ≠ .lineComment)
    (text : List Char) :
    stripComments state.isOpen text = (state.read text).map id CommentState.isOpen := by
  fun_induction CommentState.read state text with
  | case1 state =>
      cases state with
      | code => exact stripComments_of_free (commentFree_of_not_mem List.not_mem_nil)
      | lineComment => contradiction
      | blockComment => exact stripComments_of_unended rfl
  | case2 text ih =>
      rw [CommentState.read_lineComment]
      exact stripComments_line List.not_mem_nil text
  | case3 text ih =>
      have starts : commentStart ('/' :: '*' :: text) = .block [] text :=
        commentStart_eq_block_iff.mpr ⟨rfl, fun _ _ _ => Nat.zero_le _⟩
      have rest : stripComments true text = _ := ih nofun
      have opened := stripComments_of_block starts
      rw [rest] at opened
      exact opened
  | case4 c text noLine noBlock ih =>
      have rest : stripComments false text = _ := ih nofun
      have kept := stripComments_code_cons (Text.isPrefixOf?_pair_eq_none noLine)
        (Text.isPrefixOf?_pair_eq_none noBlock)
      rw [rest] at kept
      exact kept
  | case5 c text ih => contradiction
  | case6 text ih => exact (stripComments_of_ended rfl).trans (ih nofun)
  | case7 c text unended ih =>
      have dropped := stripComments_comment_cons (Text.isPrefixOf?_pair_eq_none unended)
      exact dropped.trans (ih nofun)

/-- A line is read from the state that the flag stands for. -/
theorem stripComments_eq_read_ofOpen (inComment : Bool) (text : List Char) :
    stripComments inComment text =
      ((CommentState.ofOpen inComment).read text).map id CommentState.isOpen := by
  have started : CommentState.ofOpen inComment ≠ .lineComment := by
    cases inComment <;> nofun
  have stripped := stripComments_eq_read started text
  rwa [CommentState.isOpen_ofOpen] at stripped

/-! ## A sequence of lines -/

/-- The code of each line of a sequence, with whether a block comment is open at its end, which the
next line starts with. -/
def stripLines : Bool → List (List Char) → List (List Char × Bool)
  | _, [] => []
  | inComment, line :: lines =>
    stripComments inComment line :: stripLines (stripComments inComment line).2 lines

theorem stripLines_ofOpen (inComment : Bool) (lines : List (List Char)) :
    stripLines inComment lines =
      ((CommentState.ofOpen inComment).readLines lines).map (Prod.map id CommentState.isOpen) := by
  induction lines generalizing inComment with
  | nil => rfl
  | cons line lines ih =>
      rw [stripLines, CommentState.readLines, List.map_cons, ih,
        stripComments_eq_read_ofOpen inComment line]
      simp only [Prod.map_snd, CommentState.ofOpen_isOpen]

theorem exists_strips_of_mem_stripLines {inComment : Bool} {lines : List (List Char)}
    {stripped : List Char × Bool} (member : stripped ∈ stripLines inComment lines) :
    ∃ inComment line, stripComments inComment line = stripped := by
  induction lines generalizing inComment with
  | nil => contradiction
  | cons line lines ih =>
      rcases List.mem_cons.mp member with rfl | member
      · exact ⟨inComment, line, rfl⟩
      · exact ih member

/-- Removing comments line by line does what the automaton does on the whole sequence. What is left
opens no comment, so that it is left alone by another removal. -/
theorem stripLines_eq_readLines (inComment : Bool) (lines : List (List Char)) :
    stripLines inComment lines =
        ((CommentState.ofOpen inComment).readLines lines).map (Prod.map id CommentState.isOpen) ∧
      ∀ stripped ∈ stripLines inComment lines,
        ¬['/', '/'] <:+: stripped.1 ∧ ¬['/', '*'] <:+: stripped.1 ∧
          stripComments false stripped.1 = (stripped.1, false) := by
  refine ⟨stripLines_ofOpen inComment lines, fun stripped member => ?_⟩
  obtain ⟨started, line, rfl⟩ := exists_strips_of_mem_stripLines member
  have free := commentFree_stripComments started line
  refine ⟨?line, ?block, stripComments_of_free free⟩
  case line =>
    rw [← Text.contains_iff_isInfix, free.1]
    exact Bool.false_ne_true
  case block =>
    rw [← Text.contains_iff_isInfix, free.2]
    exact Bool.false_ne_true

-- A slash that opens or ends a comment does neither a second time.
example : CommentState.code.readLines ["a/*/b*//c".toList, "d/**//* e//".toList, "*/f//*".toList] =
    [("a /c".toList, .code), ("d  ".toList, .blockComment), ("f".toList, .lineComment)] := by
  decide

end Header

end ApiTrace
