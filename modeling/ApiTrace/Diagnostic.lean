import ApiTrace.Text.Numeral

/-!
# Diagnostics

What a person is shown when something went wrong: a message, the file, facts about it, and numbered
suggestions. `Diagnostic.render` is its text, with or without terminal colours.
-/

namespace ApiTrace

/-- How serious a diagnostic is. -/
inductive Severity where
  | error
  | warning
  deriving DecidableEq, Repr

/-- A message with the facts and suggestions that belong to it. -/
structure Diagnostic where
  severity : Severity
  message : String
  /-- Facts, one line each. -/
  context : List String := []
  suggestions : List String := []
  /-- The file it is about. -/
  location : Option String := none
  deriving DecidableEq, Repr

/-- The plain name of a severity. -/
def Severity.name : Severity → String
  | .error => "error"
  | .warning => "warning"

/-- The escape sequence that selects the colour of a severity. -/
def Severity.colour : Severity → String
  | .error => "\x1b[1;31m"
  | .warning => "\x1b[1;33m"

namespace Diagnostic

/-- An error without further facts. -/
def error (message : String) : Diagnostic := ⟨.error, message, [], [], none⟩

/-- A warning without further facts. -/
def warning (message : String) : Diagnostic := ⟨.warning, message, [], [], none⟩

/-- Add a fact. -/
def withContext (diagnostic : Diagnostic) (fact : String) : Diagnostic :=
  { diagnostic with context := diagnostic.context ++ [fact] }

/-- Add a suggestion. -/
def withSuggestion (diagnostic : Diagnostic) (suggestion : String) : Diagnostic :=
  { diagnostic with suggestions := diagnostic.suggestions ++ [suggestion] }

/-- Name the file. -/
def withLocation (diagnostic : Diagnostic) (path : String) : Diagnostic :=
  { diagnostic with location := some path }

/-- A word in a colour, or plain. -/
def paint (coloured : Bool) (colour word : String) : String :=
  if coloured then colour ++ word ++ "\x1b[0m" else word

/-- The suggestions, numbered from `number`. -/
def renderSuggestions (number : Nat) : List String → String
  | [] => ""
  | suggestion :: suggestions =>
    "  " ++ Text.showNat number ++ ". " ++ suggestion ++ "\n" ++
      renderSuggestions (number + 1) suggestions

/-- The text of a diagnostic. -/
def render (diagnostic : Diagnostic) (coloured : Bool) : String :=
  let head := paint coloured diagnostic.severity.colour diagnostic.severity.name ++ ": " ++
    diagnostic.message ++ "\n"
  let place := match diagnostic.location with
    | some path => "  --> " ++ path ++ "\n"
    | none => ""
  let facts := String.join (diagnostic.context.map fun fact => "  = " ++ fact ++ "\n")
  let help :=
    if diagnostic.suggestions.isEmpty then ""
    else "\n" ++ paint coloured "\x1b[1;32m" "help" ++ ": consider:\n" ++
      renderSuggestions 1 diagnostic.suggestions
  head ++ place ++ facts ++ help

end Diagnostic

end ApiTrace
