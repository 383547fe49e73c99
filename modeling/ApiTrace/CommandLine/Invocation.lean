import ApiTrace.CommandLine.Option
import ApiTrace.Run.Output
import ApiTrace.Run.Scan
import ApiTrace.Run.Validate

/-!
# Invocations

What the arguments of the program ask for. Options for every command may stand before and after the
command's name; the later ones win.
-/

namespace ApiTrace.CommandLine

/-- What to do. -/
inductive Command where
  | generate (options : GenerateOptions)
  | validate (options : ValidateOptions) (asJson : Bool)
  | scan (options : ScanOptions) (asJson : Bool)
  deriving DecidableEq, Repr

/-- A command with the options for every command. -/
structure Invocation where
  /-- Whether to show messages that only help to find faults. -/
  verbose : Bool
  /-- Whether to do without colours. -/
  plain : Bool
  configuration : Option Path
  command : Command
  deriving DecidableEq, Repr

/-- The options for every command. -/
def commonForms : List Form := [
  ⟨"verbose", some 'v', .flag⟩,
  ⟨"no-color", none, .flag⟩,
  ⟨"config", none, .path⟩,
  ⟨"help", some 'h', .stop .help⟩]

/-- The options before the name of the command. -/
def leadingForms : List Form :=
  ⟨"version", some 'V', .stop .version⟩ :: commonForms

/-- The options of generating. -/
def generateForms : List Form := [
  ⟨"include-dir", none, .path⟩,
  ⟨"out-dir", some 'o', .path⟩,
  ⟨"id-dir", none, .path⟩,
  ⟨"hooks", none, .path⟩,
  ⟨"regenerate", none, .flag⟩,
  ⟨"report", none, .path⟩,
  ⟨"allow-partial", none, .flag⟩]

/-- The options of validating. -/
def validateForms : List Form := [
  ⟨"id-file", none, .path⟩,
  ⟨"vendor-header", none, .path⟩,
  ⟨"enum-name", none, .text⟩,
  ⟨"strict", none, .flag⟩,
  ⟨"json", none, .flag⟩]

/-- The options of scanning. -/
def scanForms : List Form := [
  ⟨"include-dir", none, .path⟩,
  ⟨"header", none, .texts⟩,
  ⟨"allow-partial", none, .flag⟩,
  ⟨"json", none, .flag⟩]

/-- The path of an option, if it was given. -/
def path? (name : String) (given : List Given) : Option Path :=
  (operand? name given).map Path.mk

/-- The path of an option that must be given. -/
def needPath (name : String) (given : List Given) : Except Stop Path :=
  (needOperand name given).map Path.mk

/-- What to generate. -/
def generateCommand (given : List Given) : Except Stop Command := do
  return .generate {
    includeDirectory := ← needPath "include-dir" given
    outDirectory := ← needPath "out-dir" given
    idDirectory := path? "id-dir" given
    hooks := path? "hooks" given
    regenerate := isGiven "regenerate" given
    report := path? "report" given
    allowPartial := isGiven "allow-partial" given }

/-- What to validate. -/
def validateCommand (given : List Given) : Except Stop Command := do
  let initial : NumberEnum := {}
  return .validate {
    idFile := ← needPath "id-file" given
    vendorHeader := ← needPath "vendor-header" given
    numberEnum := { initial with enumName := (operand? "enum-name" given).getD initial.enumName }
    strict := isGiven "strict" given } (isGiven "json" given)

/-- What to scan. -/
def scanCommand (given : List Given) : Except Stop Command := do
  return .scan {
    includeDirectory := ← needPath "include-dir" given
    headers := operands "header" given
    allowPartial := isGiven "allow-partial" given } (isGiven "json" given)

/-- The options and the meaning of a command. -/
def commandOf (name : String) :
    Option (List Form × (List Given → Except Stop Command)) :=
  match name with
  | "generate" => some (generateForms, generateCommand)
  | "validate" => some (validateForms, validateCommand)
  | "scan" => some (scanForms, scanCommand)
  | _ => none

/-- Asking for help by a command of its own. -/
def helpCommand {α : Type} : List String → Except Stop α
  | [] => .error .help
  | [name] =>
    if (commandOf name).isSome ∨ name = "help" then .error .help
    else .error (.misuse ("unknown command " ++ name))
  | _ => .error (.misuse "help is about one command")

/-- The configuration file that is asked for: after the command, before it, or in the environment.
An empty path in the environment is refused wherever it would count. -/
def requestedConfiguration (leading later : List Given) (environment : Option String) :
    Except Stop (Option Path) :=
  if environment = some "" ∧ ¬(isGiven "config" leading ∧ isGiven "config" later) then
    .error (.misuse "the configuration that the environment names needs a path")
  else .ok (((path? "config" later).or (path? "config" leading)).or (environment.map Path.mk))

/-- What some arguments ask for. The environment may name a configuration file. -/
def parse (arguments : List String) (environment : Option String) : Except Stop Invocation := do
  let (leading, rest) ← readOptions leadingForms {} arguments
  match rest with
  | [] => .error (.misuse "a command is missing")
  | "help" :: rest => helpCommand rest
  | name :: rest =>
    match commandOf name with
    | none => .error (.misuse ("unknown command " ++ name))
    | some (forms, command) =>
      let (later, rest) ← readOptions (forms ++ commonForms) {} rest
      match rest with
      | argument :: _ => Progress.unknown argument
      | [] =>
        return {
          verbose := isGiven "verbose" leading || isGiven "verbose" later
          plain := isGiven "no-color" leading || isGiven "no-color" later
          configuration := ← requestedConfiguration leading later environment
          command := ← command later }

end ApiTrace.CommandLine
