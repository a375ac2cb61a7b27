import Ambient.Text.Blank

namespace Ambient.Logging

/-!
# Logging

What to log and how to show it comes from the environment. A level that stands
alone is meant for this program only, so it is written out once for each of its
targets.
-/

/-- The targets of this program. -/
def targets : List String := ["dtsgen", "dtsgen_ast", "dtsgen_emitter", "dtsgen_cli"]

def levelNames : List String := ["off", "error", "warn", "info", "debug", "trace"]

/-- The highest level that is given as a number. -/
def maxLevel : Nat := 5

/-- A text with its capital letters of the first 128 characters made small. -/
def lowered (text : String) : String := String.ofList (text.toList.map Char.toLower)

/-- The digits of a number without its sign, if they are all digits. -/
def digits? (text : String) : Option (List Char) :=
  let digits := match text.toList with
    | '+' :: rest => rest
    | all => all
  if digits ≠ [] ∧ digits.all Char.isDigit then some digits else none

/-- The value of digits. -/
def digitsValue (digits : List Char) : Nat :=
  digits.foldl (fun n c => 10 * n + (c.toNat - '0'.toNat)) 0

/-- Whether a text is a level and nothing else: a name in any case, or a number. -/
def isLevel (text : String) : Bool :=
  levelNames.contains (lowered text) ||
    match digits? text with
    | some digits => decide (digitsValue digits ≤ maxLevel)
    | none => false

/-- The directives that stand for one directive. -/
def forProgram (directive : String) : List String :=
  if isLevel directive then targets.map fun target => target ++ "=" ++ directive
  else [directive]

/-- The directives in a list separated by commas. -/
def directives (value : String) : List String :=
  ((value.toList.splitOn ',').map fun cs => String.ofList (Text.trim cs)).filter (· ≠ "")

/-- A list of directives with every lone level made to apply to this program. -/
def scopeDirectives (value : String) : String :=
  ",".intercalate ((directives value).flatMap forProgram)

inductive Format
  /-- One line for each event. -/
  | text
  /-- Events below what they happened in. -/
  | tree
  /-- One JSON object for each event. -/
  | json
deriving DecidableEq, Repr

/-- The format that a value asks for; it is text when the value is not known. -/
def Format.ofValue (value : String) : Format :=
  match lowered (String.ofList (Text.trim value.toList)) with
  | "tree" => .tree
  | "json" => .json
  | _ => .text

structure Settings where
  directives : String
  format : Format
deriving DecidableEq, Repr

/-- The settings that the environment asks for. There is no logging unless one of
the two lists of directives is there; the program's own is preferred. -/
def Settings.ofEnvironment (lookup : String → Option String) : Option Settings := do
  let directives ← match lookup "DTSGEN_LOG" with
    | some value => some (scopeDirectives value)
    | none => lookup "RUST_LOG"
  let format := ((lookup "DTSGEN_LOG_FORMAT").map Format.ofValue).getD .text
  return ⟨directives, format⟩

end Ambient.Logging
