import Ambient.CommandLine.Arguments
import Ambient.Json.Reader
import Ambient.MemberFilter
import Ambient.Schema.Document

namespace Ambient

/-!
# Configuration

The settings of the program as a JSON file gives them, with defaults for those
that it does not mention. The settings are the whole file or stand under the key
`dts`; if what stands there cannot be read as settings the whole file is tried.
-/

structure Config where
  packageName : Option String := none
  moduleRoot : Option Path := none
  typings : Option Path := none
  suppressModulePath : Bool := false
  suppressComments : Bool := false
  suppressAmbient : Bool := false
  markUnspecified : Bool := false
  /-- The pattern of names that are left out; if it is empty none are. -/
  ignoreMembers : String := MemberFilter.defaultSource
  ignoreEmptyInterfaces : Bool := true
  ignoreEmptyClasses : Bool := false
  dryRun : Bool := false
deriving DecidableEq, Repr

namespace Config

/-- Where the values of a configuration are looked up: by name, and by place in
the list of names. -/
abbrev Source := String → Nat → Option (Option Json)

/-- The value of a key. There is none if the key is given twice. -/
def ofEntries (entries : List (String × Json)) : Source := fun key _ =>
  match entries.filter fun entry => entry.1 == key with
  | [] => some none
  | [entry] => some (some entry.2)
  | _ => none

/-- The value at a place. -/
def ofItems (items : List Json) : Source := fun _ place => some items[place]?

/-- A text that may be null. -/
def optionalText (source : Source) (key : String) (place : Nat) : Option (Option String) := do
  match ← source key place with
  | none => some none
  | some .null => some none
  | some (.string text) => some (some text)
  | some _ => none

def text (source : Source) (key : String) (place : Nat) (fallback : String) : Option String := do
  match ← source key place with
  | none => some fallback
  | some (.string text) => some text
  | some _ => none

def flag (source : Source) (key : String) (place : Nat) (fallback : Bool) : Option Bool := do
  match ← source key place with
  | none => some fallback
  | some (.bool value) => some value
  | some _ => none

/-- The settings in their order, if all that are given can be read. -/
def ofSource? (source : Source) : Option Config := do
  let standard : Config := {}
  return {
    packageName := ← optionalText source "packageName" 0
    moduleRoot := (← optionalText source "moduleRoot" 1).map Path.mk
    typings := (← optionalText source "typings" 2).map Path.mk
    suppressModulePath := ← flag source "suppressModulePath" 3 standard.suppressModulePath
    suppressComments := ← flag source "suppressComments" 4 standard.suppressComments
    suppressAmbient := ← flag source "suppressAmbientDeclaration" 5 standard.suppressAmbient
    markUnspecified := ← flag source "markUnspecifiedAsOptional" 6 standard.markUnspecified
    ignoreMembers := ← text source "ignoreMembers" 7 standard.ignoreMembers
    ignoreEmptyInterfaces := ← flag source "ignoreEmptyInterfaces" 8 standard.ignoreEmptyInterfaces
    ignoreEmptyClasses := ← flag source "ignoreEmptyClasses" 9 standard.ignoreEmptyClasses
    dryRun := ← flag source "dryRun" 10 standard.dryRun }

/-- How many settings there are. -/
def size : Nat := 11

/-- The settings that a value gives: by key, or in their order. -/
def ofValue? : Json → Option Config
  | .object entries => ofSource? (ofEntries entries)
  | .array items => if items.length ≤ size then ofSource? (ofItems items) else none
  | _ => none

/-- The settings under the key `dts`. -/
def ofNested? : Json → Option Config
  | .object entries => do
    match ← ofEntries entries "dts" 0 with
    | some value => ofValue? value
    | none => none
  | _ => none

/-- The settings in a file. -/
def ofJson? (value : Json) : Option Config := (ofNested? value).or (ofValue? value)

/-- The settings that a text writes. Characters behind the value are looked at
last. -/
def parse (text : String) : Except DocumentError Config :=
  match Json.outline text with
  | (.whole value, error) =>
    match ofJson? value, error with
    | none, _ => .error (.data (.noVariant "ConfigFile"))
    | some _, some e => .error (.text e)
    | some config, none => .ok config
  | (_, some e) => .error (.text e)
  | (_, none) => .error (.text .unfinished)

/-- The settings with what a command line says about them. A switch can only be
turned on. -/
def withArguments (config : Config) (a : Arguments) : Config where
  packageName := a.packageName.or config.packageName
  moduleRoot := a.moduleRoot.or config.moduleRoot
  typings := a.typings.or config.typings
  suppressModulePath := config.suppressModulePath || a.suppressModulePath
  suppressComments := config.suppressComments || a.suppressComments
  suppressAmbient := config.suppressAmbient || a.suppressAmbient
  markUnspecified := config.markUnspecified || a.markUnspecified
  ignoreMembers := a.ignoreMembers.getD config.ignoreMembers
  ignoreEmptyInterfaces := config.ignoreEmptyInterfaces
  ignoreEmptyClasses := config.ignoreEmptyClasses
  dryRun := config.dryRun || a.dryRun

end Config

end Ambient
