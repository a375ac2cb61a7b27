import Ambient.Run.Report

namespace Ambient

/-!
# The outcome of a command line

What the program prints and the code that it ends with.
-/

/-- What a program run leaves besides files. -/
structure Outcome where
  exitCode : Nat
  output : String := ""
  errors : String := ""
deriving DecidableEq, Repr

def versionText : String := "dtsgen 0.1.0\n"

/-- The options with what they do, as the help lists them. -/
def optionHelp : List (String × String) := [
  ("-c, --config <CONFIG>", "JSON config file with dtsgen options"),
  ("    --package-name <PACKAGE_NAME>", "Package root name; every module id starts with it"),
  ("    --module-root <MODULE_ROOT>", "Directory module ids are computed relative to"),
  ("    --typings <TYPINGS>", "Output directory for generated `.d.ts` files"),
  ("    --ignore-members <IGNORE_MEMBERS>", "Regular expression for member names to leave out"),
  ("    --suppress-module-path",
    "Name each ambient module after the package instead of the module id"),
  ("    --suppress-comments", "Drop leading comments from the output"),
  ("    --suppress-ambient-declaration",
    "Emit declarations without the `declare module '...'` wrapper"),
  ("    --mark-unspecified-as-optional",
    "Mark trailing parameters without a type annotation as optional"),
  ("    --dry-run", "Generate and print declarations without writing any files"),
  ("-h, --help", "Print help"),
  ("-V, --version", "Print version")]

def helpText : String :=
  "Generate TypeScript declaration files from Babel/Flow AST dumps\n\n" ++
    "Usage: dtsgen [OPTIONS] <INPUTS>...\n\n" ++
    "Arguments:\n" ++
    "  <INPUTS>...  AST JSON files, or directories searched recursively for `*.json`\n\n" ++
    "Options:\n" ++
    String.join (optionHelp.map fun (option, help) =>
      "  " ++ option ++ "\n          " ++ help ++ "\n")

/-- A text with blanks in front of every line but the first. -/
def hangingIndent (blanks text : String) : String :=
  ("\n" ++ blanks).intercalate (Text.lines text)

/-- One of several causes, with its number. -/
def numberedCause (index : Nat) (cause : String) : String :=
  let number := toString index
  Text.repeated " " (5 - number.length) ++ number ++ ": " ++ hangingIndent "       " cause

/-- An error with its causes below it. -/
def errorText : List String → String
  | [] => "Error: \n"
  | [message] => "Error: " ++ message ++ "\n"
  | [message, cause] =>
    "Error: " ++ message ++ "\n\nCaused by:\n    " ++ hangingIndent "    " cause ++ "\n"
  | message :: causes =>
    "Error: " ++ message ++ "\n\nCaused by:\n" ++
      "\n".intercalate (causes.mapIdx numberedCause) ++ "\n"

/-- Texts that are each followed by a newline. -/
def onLines (texts : List String) : String := String.join (texts.map (· ++ "\n"))

namespace Refusal

/-- What the program does instead of a run. -/
def outcome : Refusal → Outcome
  | .help => { exitCode := 0, output := helpText }
  | .version => { exitCode := 0, output := versionText }
  | refusal =>
    { exitCode := 2
      errors := "error: " ++ refusal.message ++
        "\n\nUsage: dtsgen [OPTIONS] <INPUTS>...\n\nFor more information, try '--help'.\n" }

end Refusal

/-- The outcome of a run. Documents that are not written are printed. -/
def Report.outcome (report : Report) (dryRun color : Bool) : Outcome where
  exitCode := if report.hasFailures then 1 else 0
  output := if dryRun then String.join (report.generated.map (·.text)) else ""
  errors := onLines (report.failureLines color ++ [report.summary color])

section

variable {m : Type → Type} [Monad m] [FileAccess m]

/-- The configuration in a file. -/
def loadConfig (path : Path) : ExceptT SetupError m Config := do
  let text ← FileAccess.attempt (FileAccess.readText (m := m) path) (.configUnreadable path)
  ExceptT.mk (pure ((Config.parse text).mapError (.configMalformed path)))

/-- The settings and the files of a run. -/
def Arguments.prepare (arguments : Arguments) : ExceptT SetupError m (Settings × List Path) := do
  let config ← match arguments.config with
    | some path => loadConfig path
    | none => pure {}
  let settings ← ExceptT.mk (pure (config.withArguments arguments).settings)
  return (settings, ← discover arguments.inputs)

/-- What becomes of a command line. -/
def execute (words : List String) (color : Bool) : m Outcome := do
  match Arguments.parse words with
  | .error refusal => return refusal.outcome
  | .ok arguments =>
    match ← arguments.prepare.run with
    | .error e => return { exitCode := 1, errors := errorText e.messages }
    | .ok (settings, inputs) =>
      return (← settings.run inputs).outcome settings.dryRun color

end

end Ambient
