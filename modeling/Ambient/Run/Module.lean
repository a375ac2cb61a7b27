import Ambient.Collection.Basic
import Ambient.Emission.Module
import Ambient.Run.Inputs

namespace Ambient

/-!
# The module of an input

A module is named after its package and after the way from the module root to
its file. Its document is written below the directory for documents, on the same
way.
-/

/-- Why the document of an input could not be made or written. -/
inductive ModuleError
  | rootNotResolved (root : Path) (error : FileError)
  | inputNotResolved (input : Path) (error : FileError)
  | outsideRoot (input root : Path)
  | unexpectedComponent (relative : Path)
  | noFileName (input : Path)
  | unreadable (input : Path) (error : FileError)
  | malformed (input : Path) (error : DocumentError)
  | notGenerated (moduleId : String) (error : UnsupportedType)
  | directoryNotMade (directory : Path) (error : FileError)
  | notWritten (path : Path) (error : FileError)

/-- The messages of an error, the outermost first. -/
def ModuleError.messages : ModuleError → List String
  | .rootNotResolved root error =>
    ["failed to resolve module root " ++ root.text, error.message]
  | .inputNotResolved input error => ["failed to resolve input " ++ input.text, error.message]
  | .outsideRoot input root => [input.text ++ " is outside the module root " ++ root.text]
  | .unexpectedComponent relative => ["unexpected path component in " ++ relative.text]
  | .noFileName input => [input.text ++ " does not name a file under the module root"]
  | .unreadable input error => ["failed to read " ++ input.text, error.message]
  | .malformed input error => ["failed to parse AST JSON: " ++ input.text, error.message]
  | .notGenerated moduleId error =>
    ["failed to generate declarations for " ++ moduleId, error.message]
  | .directoryNotMade directory error =>
    ["failed to create directory " ++ directory.text, error.message]
  | .notWritten path error => ["failed to write " ++ path.text, error.message]

/-- A text without an ending, if it has that ending. -/
def withoutEnding (ending text : String) : String :=
  if ending.toList.isSuffixOf text.toList then
    String.ofList (text.toList.take (text.length - ending.length))
  else text

/-- The name of a module in the directory of its file. -/
def moduleStem (fileName : String) : String :=
  withoutEnding ".js" (withoutEnding ".json" fileName)

/-- The names along steps; there are none if a step leads up or to the root. -/
def stepNames? : List Step → Option (List String)
  | [] => some []
  | ⟨_, .name name⟩ :: rest => (stepNames? rest).map (name :: ·)
  | ⟨_, .here⟩ :: rest => stepNames? rest
  | ⟨_, .up⟩ :: _ => none
  | ⟨_, .root⟩ :: _ => none

/-- The id of a module from the steps to its file. -/
def moduleIdBelow (package : String) (input : Path) (steps : List Step) :
    Except ModuleError String :=
  match stepNames? steps with
  | none => .error (.unexpectedComponent (Path.ofSteps steps))
  | some names =>
    match names.getLast? with
    | none => .error (.noFileName input)
    | some fileName =>
      .ok (package ++ "/" ++ "/".intercalate (names.dropLast ++ [moduleStem fileName]))

/-- Where the document of a module is written. -/
def outputPath (typings : Path) (moduleId : String) : Path := typings.join (moduleId ++ ".d.ts")

/-- A document that has been made. -/
structure GeneratedModule where
  input : Path
  moduleId : String
  outputPath : Path
  text : String
deriving DecidableEq, Repr

/-- The document of a module from the text of its input. -/
def Settings.document (settings : Settings) (input : Path) (moduleId source : String) :
    Except ModuleError GeneratedModule := do
  let program ← (Program.parse source).mapError (.malformed input)
  let text ← (settings.options.generate settings.packageName moduleId program.collect).result
    |>.mapError (.notGenerated moduleId)
  return ⟨input, moduleId, outputPath settings.typings moduleId, text⟩

section

variable {m : Type → Type} [Monad m] [FileAccess m]

/-- The steps from the module root to a file. If the paths do not show that the
file is below the root, the places that they lead to are compared. -/
def stepsFromRoot (root input : Path) : ExceptT ModuleError m (List Step) := do
  match root.below? input with
  | some steps => return steps
  | none =>
    let root ← FileAccess.attempt (FileAccess.canonical (m := m) root) (.rootNotResolved root)
    let input ← FileAccess.attempt (FileAccess.canonical (m := m) input) (.inputNotResolved input)
    match root.below? input with
    | some steps => return steps
    | none => throw (.outsideRoot input root)

/-- The id of the module in a file. -/
def moduleId (package : String) (root input : Path) : ExceptT ModuleError m String := do
  let steps ← stepsFromRoot root input
  liftExcept (moduleIdBelow package input steps)
where
  liftExcept {α : Type} (x : Except ModuleError α) : ExceptT ModuleError m α :=
    ExceptT.mk (pure x)

namespace Settings

/-- Makes the document of an input. -/
def generateModule (settings : Settings) (input : Path) : ExceptT ModuleError m GeneratedModule := do
  let moduleId ← moduleId settings.packageName settings.moduleRoot input
  let source ← FileAccess.attempt (FileAccess.readText (m := m) input) (.unreadable input)
  ExceptT.mk (pure (settings.document input moduleId source))

end Settings

/-- Writes a document to its place. -/
def GeneratedModule.save (module : GeneratedModule) : ExceptT ModuleError m Unit := do
  let directory := module.outputPath.parentSteps
  FileAccess.attempt (FileAccess.makeDirectories (m := m) directory)
    (.directoryNotMade (Path.ofSteps directory))
  FileAccess.attempt (FileAccess.write (m := m) module.outputPath module.text)
    (.notWritten module.outputPath)

/-- Makes the document of an input and writes it, unless nothing is to be
written. -/
def Settings.processInput (settings : Settings) (input : Path) :
    ExceptT ModuleError m GeneratedModule := do
  let module ← settings.generateModule input
  if !settings.dryRun then module.save
  return module

end

end Ambient
