import Ambient.Path

namespace Ambient

/-!
# Arguments

The words of a command line. An option is taken up when the next word is known
not to belong to it, so of two mistakes the one that is settled first is
reported. A word that is no option of the program is reported before any mistake
in the option it follows.
-/

/-- The options that take a value. -/
inductive Setting
  | config
  | packageName
  | moduleRoot
  | typings
  | ignoreMembers
deriving DecidableEq, Repr

/-- The options that are on or off. -/
inductive Switch
  | suppressModulePath
  | suppressComments
  | suppressAmbient
  | markUnspecified
  | dryRun
deriving DecidableEq, Repr

/-- What a command line asks for. -/
structure Arguments where
  inputs : List Path := []
  config : Option Path := none
  packageName : Option String := none
  moduleRoot : Option Path := none
  typings : Option Path := none
  ignoreMembers : Option String := none
  suppressModulePath : Bool := false
  suppressComments : Bool := false
  suppressAmbient : Bool := false
  markUnspecified : Bool := false
  dryRun : Bool := false
deriving DecidableEq, Repr

/-- An option by its name. -/
inductive OptionName
  | setting (setting : Setting)
  | switch (switch : Switch)
  | help
  | version
deriving DecidableEq, Repr

/-- Why a command line is not carried out. -/
inductive Refusal
  /-- Help was asked for. -/
  | help
  /-- The version was asked for. -/
  | version
  | unknownOption (text : String)
  /-- An option without a value, or a path that is empty. -/
  | invalidValue
  /-- An option that was given twice. -/
  | repeated
  /-- A value for an option that takes none. -/
  | unexpectedValue
  | noInputs
deriving DecidableEq, Repr

def OptionName.longNames : List (String × OptionName) := [
  ("config", .setting .config),
  ("package-name", .setting .packageName),
  ("packageName", .setting .packageName),
  ("module-root", .setting .moduleRoot),
  ("moduleRoot", .setting .moduleRoot),
  ("typings", .setting .typings),
  ("ignore-members", .setting .ignoreMembers),
  ("ignoreMembers", .setting .ignoreMembers),
  ("suppress-module-path", .switch .suppressModulePath),
  ("suppressModulePath", .switch .suppressModulePath),
  ("suppress-comments", .switch .suppressComments),
  ("suppressComments", .switch .suppressComments),
  ("suppress-ambient-declaration", .switch .suppressAmbient),
  ("suppressAmbientDeclaration", .switch .suppressAmbient),
  ("mark-unspecified-as-optional", .switch .markUnspecified),
  ("markUnspecifiedAsOptional", .switch .markUnspecified),
  ("dry-run", .switch .dryRun),
  ("dryRun", .switch .dryRun),
  ("help", .help),
  ("version", .version)]

/-- The option with a name of its own. Names are not abbreviated. -/
def OptionName.ofLong? (name : String) : Option OptionName := longNames.lookup name

/-- The option with a letter. -/
def OptionName.ofShort? (letter : Char) : Option OptionName :=
  if letter = 'c' then some (.setting .config)
  else if letter = 'h' then some .help
  else if letter = 'V' then some .version
  else none

namespace Arguments

/-- Sets a path, which may not be empty and may be given once. -/
def path (given : Option Path) (value : String) (set : Option Path → Arguments) :
    Except Refusal Arguments :=
  if given.isSome then .error .repeated
  else if value = "" then .error .invalidValue
  else .ok (set (some ⟨value⟩))

/-- Sets a text, which may be given once. -/
def text (given : Option String) (value : String) (set : Option String → Arguments) :
    Except Refusal Arguments :=
  if given.isSome then .error .repeated else .ok (set (some value))

/-- Gives a setting its value. -/
def set (a : Arguments) (setting : Setting) (value : String) : Except Refusal Arguments :=
  match setting with
  | .config => path a.config value fun v => { a with config := v }
  | .packageName => text a.packageName value fun v => { a with packageName := v }
  | .moduleRoot => path a.moduleRoot value fun v => { a with moduleRoot := v }
  | .typings => path a.typings value fun v => { a with typings := v }
  | .ignoreMembers => text a.ignoreMembers value fun v => { a with ignoreMembers := v }

/-- Turns something on that was off. -/
def turnOn (given : Bool) (on : Arguments) : Except Refusal Arguments :=
  if given then .error .repeated else .ok on

/-- Turns a switch on. -/
def enable (a : Arguments) (switch : Switch) : Except Refusal Arguments :=
  match switch with
  | .suppressModulePath => turnOn a.suppressModulePath { a with suppressModulePath := true }
  | .suppressComments => turnOn a.suppressComments { a with suppressComments := true }
  | .suppressAmbient => turnOn a.suppressAmbient { a with suppressAmbient := true }
  | .markUnspecified => turnOn a.markUnspecified { a with markUnspecified := true }
  | .dryRun => turnOn a.dryRun { a with dryRun := true }

def addInputs (a : Arguments) (texts : List String) : Except Refusal Arguments :=
  if "" ∈ texts then .error .invalidValue
  else .ok { a with inputs := a.inputs ++ texts.map Path.mk }

end Arguments

/-- Words that have been read but not taken up. -/
inductive Pending
  | nothing
  | inputs (texts : List String)
  /-- An option and its value, if that has been read. -/
  | setting (setting : Setting) (value : Option String)
deriving DecidableEq, Repr

/-- How a word of a command line looks. -/
inductive Word
  /-- `--` -/
  | separator
  /-- `--name` or `--name=value` -/
  | long (name : String) (value : Option String)
  /-- `-letters` -/
  | short (letters : List Char)
  | plain
deriving DecidableEq, Repr

/-- A text up to the first `=` and the text behind it, if there is one. -/
def splitAtEquals (cs : List Char) : List Char × Option (List Char) :=
  match cs.dropWhile (· != '=') with
  | [] => (cs, none)
  | _ :: value => (cs.takeWhile (· != '='), some value)

def Word.ofText (text : String) : Word :=
  match text.toList with
  | '-' :: '-' :: [] => .separator
  | '-' :: '-' :: rest =>
    let (name, value) := splitAtEquals rest
    .long (String.ofList name) (value.map String.ofList)
  | '-' :: letter :: letters => .short (letter :: letters)
  | _ => .plain

/-- A command line as far as it has been read. -/
structure Reading where
  arguments : Arguments := {}
  pending : Pending := .nothing
deriving DecidableEq, Repr

namespace Reading

/-- Takes up what is pending. -/
def settle (r : Reading) : Except Refusal Reading :=
  match r.pending with
  | .nothing => .ok r
  | .inputs texts => do return ⟨← r.arguments.addInputs texts, .nothing⟩
  | .setting _ none => .error .invalidValue
  | .setting setting (some value) => do return ⟨← r.arguments.set setting value, .nothing⟩

/-- An option with a value in the same word, if there is one. -/
def option (r : Reading) : OptionName → Option String → Except Refusal Reading
  | .setting setting, some value => do
    let r ← r.settle
    return { r with arguments := ← r.arguments.set setting value }
  | .setting setting, none => do return { ← r.settle with pending := .setting setting none }
  | _, some _ => .error .unexpectedValue
  | .switch switch, none => do
    let r ← r.settle
    return { r with arguments := ← r.arguments.enable switch }
  | .help, none => do
    let _ ← r.settle
    throw .help
  | .version, none => do
    let _ ← r.settle
    throw .version

/-- The value that a letter's option has in the same word. -/
def attached : List Char → Option String
  | [] => none
  | '=' :: value => some (String.ofList value)
  | value => some (String.ofList value)

/-- Options by their letters. One that takes a value takes the rest of the word. -/
def letters (r : Reading) : List Char → Except Refusal Reading
  | [] => .ok r
  | letter :: rest =>
    match OptionName.ofShort? letter with
    | none => .error (.unknownOption (String.ofList ['-', letter]))
    | some (.setting setting) => r.option (.setting setting) (attached rest)
    | some name => do (← r.option name none).letters rest

/-- A word that is an input. -/
def input (r : Reading) (text : String) : Except Refusal Reading :=
  match r.pending with
  | .inputs texts => .ok { r with pending := .inputs (texts ++ [text]) }
  | _ => do return { ← r.settle with pending := .inputs [text] }

/-- A word that is the value of the option before it, or else an input. -/
def plain (r : Reading) (text : String) : Except Refusal Reading :=
  match r.pending with
  | .setting setting none => .ok { r with pending := .setting setting (some text) }
  | _ => r.input text

/-- One word of a command line; not the separator. -/
def word (r : Reading) (text : String) : Except Refusal Reading :=
  match Word.ofText text with
  | .long name value =>
    match OptionName.ofLong? name with
    | some option => r.option option value
    | none => .error (.unknownOption ("--" ++ name))
  | .short letters => r.letters letters
  | _ => r.plain text

/-- The words of a command line. Behind the separator all words are inputs. -/
def words (r : Reading) : List String → Except Refusal Reading
  | [] => .ok r
  | text :: rest =>
    if Word.ofText text = .separator then rest.foldlM input r
    else do (← r.word text).words rest

end Reading

/-- The arguments that words stand for. -/
def Arguments.parse (words : List String) : Except Refusal Arguments := do
  let r ← (← Reading.words {} words).settle
  if r.arguments.inputs = [] then throw .noInputs
  return r.arguments

namespace Refusal

/-- Why a command line cannot be used. -/
def message : Refusal → String
  | .help => "help was asked for"
  | .version => "the version was asked for"
  | .unknownOption text => "unexpected argument '" ++ text ++ "' found"
  | .invalidValue => "a value is required for an option or an input but none was supplied"
  | .repeated => "an option cannot be used multiple times"
  | .unexpectedValue => "unexpected value for an option that takes none"
  | .noInputs => "the following required arguments were not provided:\n  <INPUTS>..."

end Refusal

end Ambient
