import ApiTrace.Header.Basic
import ApiTrace.Header.Comment
import ApiTrace.Symbol.Guard

/-!
# Conditional lines of a body

One flat level of `#if`, `#ifdef` or `#ifndef` is understood inside a body. A line is kept with the
guard of the block it lies in; lines between `#else` and `#endif` are dropped, and so are blank
lines, comments and all other directives.
-/

namespace ApiTrace

/-- A line of a body with the condition under which it exists. -/
structure GuardedLine where
  number : Nat
  /-- The text without comments, trimmed. -/
  text : List Char
  guard : Option Guard
  deriving DecidableEq, Repr

namespace Header

/-- The three ways to open a conditional block. -/
inductive Condition where
  | holds
  | isDefined
  | isNotDefined
  deriving DecidableEq, Repr

/-- The guard that a condition puts on its block. -/
def Condition.guard : Condition → List Char → Guard
  | .holds, expression => .ofExpression expression
  | .isDefined, name => .defined name
  | .isNotDefined, name => .notDefined name

/-- A preprocessor directive, as far as conditionals are concerned. -/
inductive Directive where
  | opening (condition : Condition) (expression : List Char)
  | alternative
  | elif
  | ending
  | other
  deriving DecidableEq, Repr

/-- The directive of a trimmed text after its number sign. The keyword ends at the first blank. -/
def Directive.ofText (text : List Char) : Directive :=
  let text := Text.trimStart text
  let keyword := text.takeWhile fun c => !Text.isBlank c
  let rest := Text.trim (text.dropWhile fun c => !Text.isBlank c)
  if keyword = "if".toList then .opening .holds rest
  else if keyword = "ifdef".toList then .opening .isDefined rest
  else if keyword = "ifndef".toList then .opening .isNotDefined rest
  else if keyword = "else".toList then .alternative
  else if keyword = "elif".toList then .elif
  else if keyword = "endif".toList then .ending
  else .other

/-- The part of a conditional block in which a line lies. -/
inductive Branch where
  /-- Outside of any block. -/
  | outside
  /-- Under the condition of the block that `opener` opened. -/
  | kept (guard : Guard) (opener : NumberedLine)
  /-- After the `#else` of that block. -/
  | dropped (opener : NumberedLine)
  deriving DecidableEq, Repr

/-- The guard of a line in a branch. -/
def Branch.guard? : Branch → Option Guard
  | .kept guard _ => some guard
  | _ => none

/-- The branch after a directive on `line`. -/
def Branch.follow (branch : Branch) (line : NumberedLine) :
    Directive → Except ConditionalFault Branch
  | .opening condition expression =>
    match branch with
    | .outside =>
      if expression.isEmpty then .error .withoutExpression
      else .ok (.kept (condition.guard expression) line)
    | _ => .error .nested
  | .alternative =>
    match branch with
    | .kept _ opener => .ok (.dropped opener)
    | _ => .error .strayElse
  | .elif => .error .elif
  | .ending =>
    match branch with
    | .outside => .error .strayEnd
    | _ => .ok .outside
  | .other => .ok branch

/-- The kept lines, from a given branch and comment state on. -/
def keepLines (file : String) (inComment : Bool) (branch : Branch) :
    List NumberedLine → Except ScanError (List GuardedLine)
  | [] =>
    match branch with
    | .outside => .ok []
    | .kept _ opener | .dropped opener =>
      .error (.unbalancedConditional file opener.number (String.ofList (Text.trim opener.text))
        .unterminated)
  | line :: lines =>
    let stripped := stripComments inComment line.text
    match Text.trim stripped.1 with
    | [] => keepLines file stripped.2 branch lines
    | '#' :: text =>
      match branch.follow line (.ofText text) with
      | .ok next => keepLines file stripped.2 next lines
      | .error fault =>
        .error (.unbalancedConditional file line.number (String.ofList ('#' :: text)) fault)
    | text =>
      match branch with
      | .dropped _ => keepLines file stripped.2 branch lines
      | _ => (keepLines file stripped.2 branch lines).map fun kept =>
        ⟨line.number, text, branch.guard?⟩ :: kept

/-- The kept lines of a stretch of a header. -/
def guardedLines (header : Header) (span : Span) : Except ScanError (List GuardedLine) :=
  keepLines header.name false .outside (header.slice span)

/-- The kept lines of the body of a structure. -/
def guardedBody (header : Header) (name : String) : Except ScanError (List GuardedLine) := do
  header.guardedLines (← header.body name)

end Header

end ApiTrace
