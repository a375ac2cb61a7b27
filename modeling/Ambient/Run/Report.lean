import Ambient.Run.Module

namespace Ambient

/-!
# Reports

What came of each input of a run, and how that is told.
-/

/-- An input that failed. -/
structure ModuleFailure where
  input : Path
  error : ModuleError

structure Report where
  generated : List GeneratedModule := []
  failures : List ModuleFailure := []

namespace Report

/-- The report on what came of each input. -/
def ofOutcomes (outcomes : List (Path × Except ModuleError GeneratedModule)) : Report where
  generated := outcomes.filterMap fun outcome => outcome.2.toOption
  failures := outcomes.filterMap fun outcome =>
    match outcome.2 with
    | .ok _ => none
    | .error e => some ⟨outcome.1, e⟩

def hasFailures (report : Report) : Bool := !report.failures.isEmpty

end Report

/-- Processes the inputs one after the other. An input that fails does not keep
the others from being processed. -/
def Settings.run {m : Type → Type} [Monad m] [FileAccess m] (settings : Settings)
    (inputs : List Path) : m Report := do
  let outcomes ← inputs.mapM fun input => do return (input, ← (settings.processInput input).run)
  return .ofOutcomes outcomes

/-- How a text is set off on a terminal. -/
inductive Style
  | green
  | red
  | boldRed

/-- A text in a style, if styles are shown. -/
def Style.apply (style : Style) (color : Bool) (text : String) : String :=
  if !color then text
  else
    let code := match style with
      | .green => "32"
      | .red => "31"
      | .boldRed => "1;31"
    "\x1b[" ++ code ++ "m" ++ text ++ "\x1b[0m"

/-- A failed input on a line, with its messages from the outermost to the
innermost. -/
def failureLine (color : Bool) (input : String) (messages : List String) : String :=
  Style.boldRed.apply color "error:" ++ " " ++ input ++ ": " ++ ": ".intercalate messages

/-- How many inputs came to what. -/
def summaryLine (color : Bool) (generated failed : Nat) : String :=
  let files := if generated = 1 then "file" else "files"
  let summary := "Generated declarations for " ++ toString generated ++ " " ++ files
  if failed = 0 then Style.green.apply color summary
  else summary ++ ", " ++ Style.red.apply color (toString failed ++ " failed")

namespace Report

def failureLines (color : Bool) (report : Report) : List String :=
  report.failures.map fun failure =>
    failureLine color failure.input.text failure.error.messages

def summary (color : Bool) (report : Report) : String :=
  summaryLine color report.generated.length report.failures.length

end Report

end Ambient
