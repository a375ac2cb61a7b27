import Ambient.Config.Settings

namespace Ambient

/-!
# Inputs

The inputs of a run are files and directories. A directory stands for the JSON
files below it. A file is processed once, however often it is given.
-/

/-- The extension of the files that a directory stands for. -/
def inputExtension : String := "json"

/-- The paths that are not the same as the path before them, where `last` stands
before the first. -/
def dropRepeatsAfter (last : Path) : List Path → List Path
  | [] => []
  | path :: rest =>
    if last.same path then dropRepeatsAfter last rest else path :: dropRepeatsAfter path rest

/-- The paths without those that are the same as the path before them. -/
def dropRepeats : List Path → List Path
  | [] => []
  | path :: rest => path :: dropRepeatsAfter path rest

/-- Paths in order and without repeats. Of paths that are the same the one that
was given first stays. -/
def inputOrder (paths : List Path) : List Path := dropRepeats (paths.mergeSort Path.le)

section

variable {m : Type → Type} [Monad m] [FileAccess m]

/-- A file operation in a longer action, with what its failure means there. -/
def FileAccess.attempt {ε α : Type} (operation : m (Except FileError α))
    (failure : FileError → ε) : ExceptT ε m α :=
  ExceptT.mk do return (← operation).mapError failure

/-- The files that an input stands for. -/
def filesOf (input : Path) : ExceptT SetupError m (List Path) := do
  if ← FileAccess.isFile (m := m) input then return [input]
  if !(← FileAccess.isDirectory (m := m) input) then throw (.inputNotFound input)
  let files ← FileAccess.attempt (FileAccess.filesBelow (m := m) input) (.inputNotWalked input)
  return files.filter fun file => file.extension? == some inputExtension

/-- The files that inputs stand for. -/
def discover (inputs : List Path) : ExceptT SetupError m (List Path) := do
  return inputOrder (← inputs.mapM filesOf).flatten

end

end Ambient
