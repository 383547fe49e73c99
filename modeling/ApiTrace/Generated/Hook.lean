import ApiTrace.Text.Search
import ApiTrace.Text.WordClass

/-!
# Hooks

A hook is a hand-written function that a generated shim forwards to. Hooks are recognised by how
their names start, wherever such a name stands in the hook source.
-/

namespace ApiTrace

/-- The hooks of a source. -/
structure HookSet where
  /-- The names, each once. -/
  names : List String
  deriving DecidableEq, Repr

namespace HookSet

/-- No hooks: every shim ignores its arguments. -/
def empty : HookSet := ⟨[]⟩

/-- The name at the start of a text that begins with one of the starts and goes on with at least one
word character, and what follows it. Earlier starts have precedence. -/
def nameAt? (starts : List (List Char)) (text : List Char) : Option (List Char × List Char) :=
  starts.findSome? fun start =>
    match start.isPrefixOf? text with
    | none => none
    | some rest =>
      match rest.takeWhile Text.isWordChar with
      | [] => none
      | c :: word => some (start ++ c :: word, rest.dropWhile Text.isWordChar)

theorem length_lt_of_nameAt?_eq_some {starts : List (List Char)} {text name rest : List Char}
    (h : nameAt? starts text = some (name, rest)) : rest.length < text.length := by
  obtain ⟨start, -, found⟩ := List.exists_of_findSome?_eq_some h
  split at found
  · contradiction
  · rename_i after dropped
    split at found
    · contradiction
    · rename_i c word taken
      obtain ⟨-, rfl⟩ := Prod.mk.inj (Option.some.inj found)
      rw [Text.append_of_isPrefixOf?_eq_some dropped]
      have whole := congrArg List.length
        (List.takeWhile_append_dropWhile (p := Text.isWordChar) (l := after))
      rw [List.length_append, taken, List.length_cons] at whole
      rw [List.length_append]
      omega

/-- The names in a text, each starting where words begin or end; `inWord` says whether the character
before the text is a word character. -/
def namesIn (starts : List (List Char)) (inWord : Bool) (text : List Char) : List (List Char) :=
  match text with
  | [] => []
  | c :: rest =>
    if inWord = Text.isWordChar c then namesIn starts (Text.isWordChar c) rest
    else
      match _ : nameAt? starts (c :: rest) with
      | some (name, after) => name :: namesIn starts true after
      | none => namesIn starts (Text.isWordChar c) rest
termination_by text.length
decreasing_by
  · simp
  · exact length_lt_of_nameAt?_eq_some ‹_›
  · simp

/-- The hooks of a source. Empty starts are ignored. -/
def ofSource (text : String) (starts : List String) : HookSet :=
  let starts := (starts.map String.toList).filter fun start => !start.isEmpty
  ⟨((namesIn starts false text.toList).map String.ofList).eraseDups⟩

/-- Whether a hook of this name exists. -/
def contains (hooks : HookSet) (name : String) : Bool :=
  hooks.names.contains name

end HookSet

end ApiTrace
