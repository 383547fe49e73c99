import ApiTrace.CommandLine.Invocation
import ApiTrace.Run.Generate
import ApiTrace.Text.Control

/-!
# Execution

Carrying out an invocation: what the program prints on its two outputs, and its exit code. Messages
of the journal come first among the complaints, warnings about the result and the error that stopped
the run follow.
-/

namespace ApiTrace.CommandLine

/-- What a command comes to. -/
structure Answer where
  output : String
  warnings : List Diagnostic := []
  /-- An error after everything was shown. -/
  failure : Option RunError := none

/-- What the program leaves behind. -/
structure Finished where
  exitCode : Nat
  output : String
  complaints : String
  deriving DecidableEq, Repr

/-- The lines about one category. -/
def categoryLines (report : CategoryReport) : List String :=
  (report.category.label ++ ": " ++ Text.showNat report.functions ++ " functions, " ++
    Text.showNat report.current ++ " current ids, " ++ Text.showNat report.residual ++
    " residual ids") ::
    report.uncovered.map fun function => "  registered per function: " ++ function

/-- The warnings about one category. -/
def categoryWarnings (report : CategoryReport) : List Diagnostic :=
  report.uncovered.map fun function =>
    (Diagnostic.warning ("function `" ++ function ++
      "` has no callback group, its shims are registered one by one")).withContext
        ("category: " ++ report.category.label)

/-- The text of lines. -/
def joinLines (lines : List String) : String :=
  String.join (lines.map fun line => line ++ "\n")

/-- What is said about a generating run. -/
def answerOfGenerate (report : GenerateReport) : Answer where
  output := joinLines (report.categories.flatMap categoryLines ++
    (report.files.map fun file => "  wrote " ++ file.path.text) ++
    report.removed.toList.map fun path => "  removed " ++ path.text)
  warnings := report.categories.flatMap categoryWarnings

/-- What is said about a validation. -/
def answerOfValidate (report : ValidateReport) (asJson : Bool) : Answer where
  output :=
    if asJson then report.toJson.render ++ "\n"
    else joinLines (report.findings.map Finding.render ++ [report.summary])
  failure := match report.check with
    | .ok () => none
    | .error error => some (.ids error)

/-- What is said about a scan. -/
def answerOfScan (report : ScanReport) (asJson : Bool) : Answer where
  output := if asJson then report.toJson.render ++ "\n" else report.listing

/-- Carry out a command. The directory is the one in which a configuration file is looked up. -/
def Invocation.carryOut (invocation : Invocation) (directory : Path) : Operation Answer := do
  let configured : Operation Configuration := .reading fun workspace =>
    Configuration.discover workspace directory invocation.configuration none
  match invocation.command with
  | .generate options => return answerOfGenerate (← generate (← configured) options)
  | .validate options asJson => return answerOfValidate (← .reading (validate options)) asJson
  | .scan options asJson =>
    let configuration ← configured
    return answerOfScan (← .reading (scan configuration options)) asJson

/-- The name of a level at its full width. -/
def levelName : Level → String
  | .debug => "DEBUG"
  | .info => " INFO"
  | .warning => " WARN"
  | .error => "ERROR"

/-- The lines of a journal that are shown. A message cannot steer the terminal. -/
def journalLines (verbose : Bool) (messages : List Message) : List String :=
  (messages.filter fun message => verbose || message.level != .debug).map fun message =>
    levelName message.level ++ " " ++ Text.disarmed message.text

/-- The exit code after an error. -/
def exitCodeOf : RunError → Nat
  | .ids .exhausted => 101
  | _ => 1

/-- What the program leaves behind after an invocation. -/
def Invocation.finish (invocation : Invocation) (coloured : Bool)
    (result : Journalled RunError Answer) : Finished :=
  let journal := joinLines (journalLines invocation.verbose result.messages)
  let painted := coloured && !invocation.plain
  let shown (diagnostic : Diagnostic) : String := diagnostic.render painted
  match result.outcome with
  | .error error => ⟨exitCodeOf error, "", journal ++ shown error.diagnostic⟩
  | .ok answer =>
    let warnings := String.join (answer.warnings.map shown)
    match answer.failure with
    | none => ⟨0, answer.output, journal ++ warnings⟩
    | some error =>
      ⟨exitCodeOf error, answer.output, journal ++ warnings ++ shown error.diagnostic⟩

/-- The version line. -/
def versionText : String :=
  "tracegen 0.1.0\n"

/-- The help text. -/
def helpText : String :=
  "tracegen - tracing shims and stable api ids from vendor C headers\n\n" ++
  "Usage: tracegen [--verbose] [--no-color] [--config FILE] COMMAND\n\n" ++
  "Commands:\n" ++
  "  generate --include-dir DIR --out-dir DIR [--id-dir DIR] [--hooks FILE]\n" ++
  "           [--regenerate] [--report FILE] [--allow-partial]\n" ++
  "  validate --id-file FILE --vendor-header FILE [--enum-name NAME]\n" ++
  "           [--strict] [--json]\n" ++
  "  scan     --include-dir DIR [--header FILE]... [--allow-partial] [--json]\n"

/-- What the program leaves behind when nothing is carried out. -/
def Stop.finish : Stop → Finished
  | .misuse complaint => ⟨2, "", "error: " ++ complaint ++ "\n\n" ++ helpText⟩
  | .help => ⟨0, helpText, ""⟩
  | .version => ⟨0, versionText, ""⟩

/-- Run the program on its arguments. -/
def run (arguments : List String) (environment : Option String) (directory : Path)
    (coloured : Bool) (workspace : Workspace) : Workspace × Finished :=
  match parse arguments environment with
  | .error stop => (workspace, stop.finish)
  | .ok invocation =>
    let (after, result) := invocation.carryOut directory workspace
    (after, invocation.finish coloured result)

end ApiTrace.CommandLine
