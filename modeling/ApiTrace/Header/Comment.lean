import ApiTrace.Text.Search

/-!
# Comments

Comments are removed line by line. A block comment leaves one blank in its place and may stay open
at the end of the line; the flag that goes from line to line says whether one is open.
-/

namespace ApiTrace.Header

/-- The text before the first comment of a line, and what opens it. -/
inductive CommentStart where
  /-- No comment starts. -/
  | absent
  /-- A comment that runs to the end of the line. -/
  | line (before : List Char)
  /-- A comment that runs to its own end mark. -/
  | block (before after : List Char)
  deriving DecidableEq, Repr

/-- The first comment of a text that starts outside comments. -/
def commentStart (text : List Char) : CommentStart :=
  match Text.splitOnce? ['/', '/'] text, Text.splitOnce? ['/', '*'] text with
  | none, none => .absent
  | some (before, _), none => .line before
  | none, some (before, after) => .block before after
  | some (beforeLine, _), some (beforeBlock, after) =>
    if beforeLine.length < beforeBlock.length then .line beforeLine else .block beforeBlock after

theorem length_lt_of_commentStart_eq_block {text before after : List Char}
    (h : commentStart text = .block before after) : after.length < text.length := by
  unfold commentStart at h
  split at h
  · cases h
  · cases h
  · rename_i found
    cases h
    exact Text.length_after_lt_of_splitOnce?_eq_some (List.cons_ne_nil _ _) found
  · rename_i found
    split at h
    · cases h
    · cases h
      exact Text.length_after_lt_of_splitOnce?_eq_some (List.cons_ne_nil _ _) found

/-- The text of a line outside comments, and whether a block comment is open at its end. -/
def stripComments (inComment : Bool) (text : List Char) : List Char × Bool :=
  if inComment then
    match _ : Text.splitOnce? ['*', '/'] text with
    | none => ([], true)
    | some (_, after) => stripComments false after
  else
    match _ : commentStart text with
    | .absent => (text, false)
    | .line before => (before, false)
    | .block before after =>
      let rest := stripComments true after
      (before ++ ' ' :: rest.1, rest.2)
termination_by text.length
decreasing_by
  · rename_i found
    exact Text.length_after_lt_of_splitOnce?_eq_some (List.cons_ne_nil _ _) found
  · exact length_lt_of_commentStart_eq_block ‹_›

end ApiTrace.Header
