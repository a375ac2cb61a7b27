import Ambient.Json.Basic
import Ambient.Number.Shortest
import Ambient.Text.Escaped

namespace Ambient

/-!
# Values that do not fit

What can be wrong with a value that is read as a node, and how it is reported.
-/

/-- What a value was expected to be. -/
inductive Expected
  | string
  | boolean
  | sequence
  /-- A whole number of 32 bits. -/
  | offset
  | double
  | unit
  /-- One of a list of names, given as a string or as a map with one key. -/
  | stringOrMap
  | singleKey
  | record (name : String)
  | recordOf (name : String) (fields : Nat)
  | document
  | documentKind
  | documentOf (kind : String) (fields : Nat)
  /-- No more than this many elements. -/
  | elements (count : Nat)
  | fewerElements
deriving DecidableEq, Repr

/-- What is wrong with a value. -/
inductive ReadError
  | missingTag
  | missingField (key : String)
  | duplicateField (key : String)
  | invalidType (found : Json) (expected : Expected)
  | invalidValue (found : Json) (expected : Expected)
  | invalidLength (length : Nat) (expected : Expected)
  | unknownVariant (name : String) (options : List String)
  | noVariant (name : String)

/-- A count of elements in words. -/
def elementCount (count : Nat) : String :=
  toString count ++ if count = 1 then " element" else " elements"

def Expected.text : Expected → String
  | .string => "a string"
  | .boolean => "a boolean"
  | .sequence => "a sequence"
  | .offset => "u32"
  | .double => "f64"
  | .unit => "unit"
  | .stringOrMap => "string or map"
  | .singleKey => "map with a single key"
  | .record name => "struct " ++ name
  | .recordOf name fields => "struct " ++ name ++ " with " ++ elementCount fields
  | .document => "internally tagged enum SourceFile"
  | .documentKind => "variant identifier"
  | .documentOf kind fields =>
    "struct variant SourceFile::" ++ kind ++ " with " ++ elementCount fields
  | .elements count => elementCount count ++ " in sequence"
  | .fewerElements => "fewer elements in array"

/-- A value as an error names it. -/
def Json.found : Json → String
  | .null => "null"
  | .bool value => "boolean `" ++ toString value ++ "`"
  | .number (.whole n) => "integer `" ++ toString n ++ "`"
  | .number (.double x) => "floating point `" ++ x.markedText ++ "`"
  | .string value => "string " ++ Text.escaped value
  | .array _ => "sequence"
  | .object _ => "map"

/-- Names in backquotes as a choice. -/
def choice (names : List String) : String :=
  match names.map fun name => "`" ++ name ++ "`" with
  | [] => "there are no variants"
  | [a] => "expected " ++ a
  | [a, b] => "expected " ++ a ++ " or " ++ b
  | all => "expected one of " ++ ", ".intercalate all

namespace ReadError

def message : ReadError → String
  | .missingTag => "node is missing its `type` tag"
  | .missingField key => "missing field `" ++ key ++ "`"
  | .duplicateField key => "duplicate field `" ++ key ++ "`"
  | .invalidType found expected => "invalid type: " ++ found.found ++ ", expected " ++ expected.text
  | .invalidValue found expected =>
    "invalid value: " ++ found.found ++ ", expected " ++ expected.text
  | .invalidLength length expected =>
    "invalid length " ++ toString length ++ ", expected " ++ expected.text
  | .unknownVariant name options => "unknown variant `" ++ name ++ "`, " ++ choice options
  | .noVariant name => "data did not match any variant of untagged enum " ++ name

end ReadError

end Ambient
