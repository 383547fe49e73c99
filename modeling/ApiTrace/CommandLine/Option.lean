import ApiTrace.Text.Search

/-!
# Options of a command line

An option is written with its name after two dashes, or with its letter after one. Its operand
stands in the next argument or, after the name, behind an equals sign, and after the letter
directly. Letters of options without operand may be joined; nothing behind a letter that ends the
reading is looked at.
-/

namespace ApiTrace.CommandLine

/-- Why the arguments are not carried out. -/
inductive Stop where
  /-- The arguments are not understood. -/
  | misuse (complaint : String)
  /-- Help was asked for. -/
  | help
  /-- The version was asked for. -/
  | version
  deriving DecidableEq, Repr

/-- What an option stands for. -/
inductive Kind where
  /-- It is given or not. -/
  | flag
  /-- It has a path as operand. -/
  | path
  /-- It has a text as operand. -/
  | text
  /-- It has a text as operand and may be given several times. -/
  | texts
  /-- It ends the reading of arguments. -/
  | stop (how : Stop)
  deriving DecidableEq, Repr

/-- How an option is written. -/
structure Form where
  name : String
  letter : Option Char := none
  kind : Kind
  deriving DecidableEq, Repr

/-- An option as it was given; a flag has the empty operand. -/
structure Given where
  name : String
  operand : String
  deriving DecidableEq, Repr

/-- Options in the order in which they were given, and one that still needs its operand. -/
structure Progress where
  given : List Given := []
  pending : Option Form := none
  deriving DecidableEq, Repr

namespace Progress

/-- Note an option with its operand. -/
def note (progress : Progress) (form : Form) (operand : List Char) : Except Stop Progress :=
  if form.kind ≠ .texts ∧ progress.given.any fun given => given.name = form.name then
    .error (.misuse ("the option --" ++ form.name ++ " is given more than once"))
  else if form.kind = .path ∧ operand.isEmpty then
    .error (.misuse ("the option --" ++ form.name ++ " needs a path"))
  else .ok ⟨progress.given ++ [⟨form.name, String.ofList operand⟩], none⟩

/-- Note an option that has no operand of its own. -/
def noteAlone (progress : Progress) (form : Form) : Except Stop Progress :=
  match form.kind with
  | .flag => progress.note form []
  | .stop how => .error how
  | _ => .ok { progress with pending := some form }

/-- An argument that nothing is known of. -/
def unknown {α : Type} (argument : String) : Except Stop α :=
  .error (.misuse ("unexpected argument " ++ argument))

/-- Note the options of joined letters. -/
def noteLetters (forms : List Form) (progress : Progress) : List Char → Except Stop Progress
  | [] => .ok progress
  | letter :: letters =>
    match forms.find? fun form => form.letter = some letter with
    | none => unknown ("-" ++ String.singleton letter)
    | some form =>
      match form.kind with
      | .stop how => .error how
      | .flag =>
        match progress.note form [] with
        | .ok progress => noteLetters forms progress letters
        | .error stop => .error stop
      | _ =>
        match letters with
        | [] => progress.noteAlone form
        | '=' :: operand => progress.note form operand
        | operand => progress.note form operand

/-- Note the option of a name, with what follows its equals sign. -/
def noteName (forms : List Form) (progress : Progress) (body : List Char) :
    Except Stop Progress :=
  let (name, operand) := match Text.splitOnce? ['='] body with
    | some (name, operand) => (name, some operand)
    | none => (body, none)
  match forms.find? fun form => form.name.toList = name with
  | none => unknown ("--" ++ String.ofList name)
  | some form =>
    match operand with
    | none => progress.noteAlone form
    | some operand => match form.kind with
      | .flag | .stop _ =>
        .error (.misuse ("the option --" ++ form.name ++ " has no operand"))
      | _ => progress.note form operand

/-- Refuse to go on while an option still needs its operand. -/
def settled (progress : Progress) : Except Stop (List Given) :=
  match progress.pending with
  | none => .ok progress.given
  | some form => .error (.misuse ("the option --" ++ form.name ++ " needs an operand"))

end Progress

/-- Read options up to the first argument that belongs to none, and yield that with all further
arguments. Nothing may follow two dashes alone. -/
def readOptions (forms : List Form) (progress : Progress) :
    List String → Except Stop (List Given × List String)
  | [] => do return (← progress.settled, [])
  | argument :: arguments =>
    match argument.toList with
    | ['-', '-'] => do
      let given ← progress.settled
      match arguments with
      | [] => return (given, [])
      | argument :: _ => Progress.unknown argument
    | '-' :: '-' :: body =>
      match progress.settled with
      | .error stop => .error stop
      | .ok _ =>
        match progress.noteName forms body with
        | .error stop => .error stop
        | .ok progress => readOptions forms progress arguments
    | '-' :: letter :: letters =>
      match progress.settled with
      | .error stop => .error stop
      | .ok _ =>
        match progress.noteLetters forms (letter :: letters) with
        | .error stop => .error stop
        | .ok progress => readOptions forms progress arguments
    | operand =>
      match progress.pending with
      | none => .ok (progress.given, argument :: arguments)
      | some form =>
        match progress.note form operand with
        | .error stop => .error stop
        | .ok progress => readOptions forms progress arguments

/-- The operand of an option, if it was given. -/
def operand? (name : String) (given : List Given) : Option String :=
  (given.find? fun option => option.name = name).map Given.operand

/-- Whether an option was given. -/
def isGiven (name : String) (given : List Given) : Bool :=
  (operand? name given).isSome

/-- All operands of an option. -/
def operands (name : String) (given : List Given) : List String :=
  (given.filter fun option => option.name = name).map Given.operand

/-- The operand of an option that must be given. -/
def needOperand (name : String) (given : List Given) : Except Stop String :=
  match operand? name given with
  | some operand => .ok operand
  | none => .error (.misuse ("the option --" ++ name ++ " is missing"))

end ApiTrace.CommandLine
