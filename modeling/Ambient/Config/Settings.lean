import Ambient.Config.Basic
import Ambient.Emission.Options
import Ambient.Files.Basic

namespace Ambient

/-!
# Settings of a run

A configuration that has been checked. What is wrong with it is found before
any input is read.
-/

structure Settings where
  packageName : String
  /-- The directory that module ids are relative to. -/
  moduleRoot : Path
  /-- The directory that documents are written to. -/
  typings : Path
  dryRun : Bool
  options : Options

/-- Why a run cannot begin. -/
inductive SetupError
  | configUnreadable (path : Path) (error : FileError)
  | configMalformed (path : Path) (error : DocumentError)
  | noPackageName
  | invalidPattern (error : InvalidPattern)
  | inputNotFound (input : Path)
  | inputNotWalked (input : Path) (error : FileError)

/-- What is wrong with a JSON text. -/
def DocumentError.message : DocumentError → String
  | .text .malformed => "the text is not JSON"
  | .text .unfinished => "the JSON text ends too early"
  | .data error => error.message

/-- What is wrong with the text of a configuration, the outermost message first. -/
def Config.errorMessages (error : DocumentError) : List String :=
  ["failed to parse dtsgen config JSON", error.message]

/-- The messages of an error, the outermost first. -/
def SetupError.messages : SetupError → List String
  | .configUnreadable path error => ["failed to read config: " ++ path.text, error.message]
  | .configMalformed path error =>
    ("failed to parse config: " ++ path.text) :: Config.errorMessages error
  | .noPackageName =>
    ["a package name is required (--package-name or `packageName` in the config)"]
  | .invalidPattern error =>
    ["invalid `ignoreMembers` pattern", error.message, "the pattern is not a regular expression"]
  | .inputNotFound input => ["input not found: " ++ input.text]
  | .inputNotWalked input error => ["failed to walk directory " ++ input.text, error.message]

namespace Config

/-- The filter of a pattern; without one nothing is left out. -/
def filter (pattern : String) : Except InvalidPattern MemberFilter :=
  if pattern = "" then .ok .keepAll else MemberFilter.ofPattern pattern

/-- The settings that a configuration amounts to. -/
def settings (config : Config) : Except SetupError Settings := do
  let some packageName := config.packageName.filter (· ≠ "") | throw .noPackageName
  let filter ← (filter config.ignoreMembers).mapError .invalidPattern
  return {
    packageName
    moduleRoot := config.moduleRoot.getD ⟨"."⟩
    typings := config.typings.getD ⟨"."⟩
    dryRun := config.dryRun
    options := {
      suppressModulePath := config.suppressModulePath
      suppressComments := config.suppressComments
      markUnspecified := config.markUnspecified
      suppressAmbient := config.suppressAmbient
      filter
      ignoreEmptyInterfaces := config.ignoreEmptyInterfaces
      ignoreEmptyClasses := config.ignoreEmptyClasses } }

end Config

end Ambient
