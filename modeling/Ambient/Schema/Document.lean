import Ambient.Json.Reader
import Ambient.Schema.Read

namespace Ambient

/-!
# Documents

A document holds the syntax tree of one module: a program, or a file around
one. The kind of the document is looked at as soon as it has been read, so a
wrong kind is reported before a mistake in the text that follows it.
-/

/-- Why a document cannot be read. -/
inductive DocumentError
  | text (error : Json.SyntaxError)
  | data (error : ReadError)

namespace Document

/-- The two kinds of documents. -/
inductive Kind
  | file
  | program
deriving DecidableEq, Repr

def kindNames : List (String × Kind) := [("File", .file), ("Program", .program)]

/-- The kind of a document that the value of its `type` gives. -/
def kindOf : Json → Except ReadError Kind
  | .string name => Shape.readName kindNames none name
  | value => .error (.invalidType value .documentKind)

/-- What is wrong with a kind, if anything. -/
def kindFault? (value : Json) : Option ReadError :=
  match kindOf value with
  | .ok _ => none
  | .error e => some e

/-- What is wrong with the kinds among entries: the first must be known, and
there may be no second. -/
def entriesFault? (seen : Bool) : List (String × Json) → Option ReadError
  | [] => none
  | (key, value) :: rest =>
    if key ≠ "type" then entriesFault? seen rest
    else if seen then some (.duplicateField "type")
    else (kindFault? value).or (entriesFault? true rest)

/-- What is wrong with the kind of a document as far as it has been read. -/
def outlineFault? : Json.Outline → Option ReadError
  | .none => none
  | .whole (.object entries) => entriesFault? false entries
  | .whole (.array []) => some (.missingField "type")
  | .whole (.array (first :: _)) => kindFault? first
  | .whole value => some (.invalidType value .document)
  | .array (first :: _) _ => kindFault? first
  | .array [] opened => opened.map fun value => .invalidType value .documentKind
  | .object entries key opened =>
    (entriesFault? false entries).or <|
      if key ≠ some "type" then none
      else if (Json.get? "type" entries).isSome then some (.duplicateField "type")
      else opened.map fun value => .invalidType value .documentKind

/-- The value under a key that may be given once. -/
def single? {α : Type} (key : String) (read : Json → Except ReadError α) :
    List (String × Json) → Except ReadError (Option α)
  | [] => .ok none
  | (k, value) :: rest =>
    if k ≠ key then single? key read rest
    else do
      let result ← read value
      if (Json.get? key rest).isSome then throw (.duplicateField key)
      return some result

/-- The statements of a program. -/
def readBody (value : Json) : Except ReadError (List Statement) :=
  (Mode.nullable (.list .statement) []).read value.asPart

/-- A program, whatever kind it says it is. -/
def readProgram : Json → Except ReadError Program
  | .object entries => do
    let body ← single? "body" readBody entries
    return ⟨body.getD []⟩
  | .array [] => .ok ⟨[]⟩
  | .array (first :: rest) => do
    let body ← readBody first
    if rest ≠ [] then throw (.invalidLength (rest.length + 1) (.elements 1))
    return ⟨body⟩
  | value => .error (.invalidType value (.record "Program"))

/-- The program in a file with these entries. -/
def readFileEntries (entries : List (String × Json)) : Except ReadError Program := do
  match ← single? "program" readProgram entries with
  | some program => return program
  | none => throw (.missingField "program")

/-- The program in a file with these items after its kind. -/
def readFileItems : List Json → Except ReadError Program
  | [] => .error (.invalidLength 0 (.documentOf "File" 1))
  | first :: rest => do
    let program ← readProgram first
    if rest ≠ [] then throw (.invalidLength (rest.length + 1) (.elements 1))
    return program

/-- The program in a document. -/
def read : Json → Except ReadError Program
  | .object entries => do
    let some kind := Json.get? "type" entries | throw (.missingField "type")
    match ← kindOf kind with
    | .file => readFileEntries entries
    | .program => readProgram (.object entries)
  | .array (kind :: rest) => do
    match ← kindOf kind with
    | .file => readFileItems rest
    | .program => readProgram (.array rest)
  | .array [] => .error (.missingField "type")
  | value => .error (.invalidType value .document)

end Document

/-- The program that a text writes. Characters after the document are looked at
last. -/
def Program.parse (text : String) : Except DocumentError Program :=
  let (outline, error) := Json.outline text
  match Document.outlineFault? outline with
  | some fault => .error (.data fault)
  | none =>
    match outline, error with
    | .whole value, error =>
      match Document.read value, error with
      | .error e, _ => .error (.data e)
      | .ok _, some e => .error (.text e)
      | .ok program, none => .ok program
    | _, some e => .error (.text e)
    | _, none => .error (.text .unfinished)

end Ambient
