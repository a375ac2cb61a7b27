import Ambient.Schema.ReadError
import Ambient.Syntax.Statement

namespace Ambient

/-!
# Places for values

A place says what a value at some point of a document is read as. A record is
read field by field, and each field has a place of its own.
-/

/-- What a value is read as. -/
inductive Place
  | text
  | flag
  /-- A whole number of 32 bits. -/
  | offset
  | double
  | list (item : Place)
  /-- A comment. A comment that was kept aside while its node was read is
  reported a little differently when it is wrong. -/
  | comment (kept : Bool)
  | commentKind (kept : Bool)
  | decorator
  | rawText
  | stringLiteral
  | identifier
  | propertyKey
  | typeRef
  /-- A type in its wrapper. -/
  | wrappedType
  | type
  | typeArguments
  | typeParams
  | typeParam
  | functionType
  | functionParam
  | objectType
  | objectMember
  | indexer
  | callProperty
  | pattern
  | patternMember
  | importSpecifier
  | exportSpecifier
  | declarator
  | superclass
  | implemented
  | classBody
  | classMember
  | methodKind
  | interfaceBase
  | statement
deriving DecidableEq

/-- What is read at a place. -/
@[reducible] def Place.Result : Place → Type
  | .text => String
  | .flag => Bool
  | .offset => Nat
  | .double => Double
  | .list item => List item.Result
  | .comment _ => Comment
  | .commentKind _ => CommentKind
  | .decorator => Origin
  | .rawText => Option String
  | .stringLiteral => StringLiteral
  | .identifier => Identifier
  | .propertyKey => PropertyKey
  | .typeRef => TypeRef
  | .wrappedType => FlowType
  | .type => FlowType
  | .typeArguments => List FlowType
  | .typeParams => List TypeParam
  | .typeParam => TypeParam
  | .functionType => FunctionType
  | .functionParam => FunctionParam
  | .objectType => ObjectType
  | .objectMember => ObjectMember
  | .indexer => Indexer
  | .callProperty => CallProperty
  | .pattern => Pattern
  | .patternMember => PatternMember
  | .importSpecifier => ImportSpecifier
  | .exportSpecifier => ExportSpecifier
  | .declarator => Declarator
  | .superclass => Superclass
  | .implemented => Implemented
  | .classBody => List ClassMember
  | .classMember => ClassMember
  | .methodKind => MethodKind
  | .interfaceBase => InterfaceBase
  | .statement => Statement

/-- A part of a value, ready to be read at any place. -/
structure Part where
  value : Json
  read : (place : Place) → Except ReadError place.Result

/-- The outermost layer of a value. The entries of an object have distinct
keys. -/
inductive Layer
  | scalar (value : Json)
  | array (items : List Part)
  | object (entries : List (String × Part))

/-- The layer as an error names it. -/
def Layer.found : Layer → Json
  | .scalar value => value
  | .array _ => .array []
  | .object _ => .object []

/-- How a field treats a value that is null or not there. -/
inductive Mode : Type → Type
  /-- It has to be there. -/
  | required (place : Place) : Mode place.Result
  /-- It may be null or not there. -/
  | optional (place : Place) : Mode (Option place.Result)
  /-- It has a default, also when it is null. -/
  | nullable (place : Place) (fallback : place.Result) : Mode place.Result
  /-- It has a default, but when it is there null is a value like any other. -/
  | defaulted (place : Place) (fallback : place.Result) : Mode place.Result

namespace Mode

variable {α : Type}

/-- The value of a field that is not there. -/
def absent? : Mode α → Option α
  | .required _ => none
  | .optional _ => some none
  | .nullable _ fallback => some fallback
  | .defaulted _ fallback => some fallback

/-- The value of a field that is there. -/
def read : Mode α → Part → Except ReadError α
  | .required place, part => part.read place
  | .optional place, part =>
    if part.value.isNull then .ok none else (part.read place).map some
  | .nullable place fallback, part =>
    if part.value.isNull then .ok fallback else part.read place
  | .defaulted place _, part => part.read place

end Mode

/-- The fields of a record in the order of its declaration, and how to build it
from them. -/
inductive Record : Type → Type 1
  | build {α : Type} (value : α) : Record α
  | field {α β : Type} (init : Record (β → α)) (key : String) (mode : Mode β) : Record α
  /-- Another record whose fields stand among the fields of this one. They are
  read last. -/
  | flatten {α β : Type} (init : Record (β → α)) (inner : Record β) : Record α

/-- An error and where it comes up: at an entry of the record, or after all
entries. -/
structure Fault where
  position : Nat
  error : ReadError

/-- Both have to be read. Of two faults the one that comes up earlier is
reported. -/
def Fault.both {α β : Type} : Except Fault (β → α) → Except Fault β → Except Fault α
  | .ok f, .ok x => .ok (f x)
  | .error e, .ok _ => .error e
  | .ok _, .error e => .error e
  | .error e, .error e' => .error (if e'.position < e.position then e' else e)

namespace Record

variable {β : Type}

/-- The keys of the fields. -/
def keys : {α : Type} → Record α → List String
  | _, .build _ => []
  | _, .field init key _ => init.keys ++ [key]
  | _, .flatten init inner => init.keys ++ inner.keys

/-- How many fields a record has of its own. -/
def size : {α : Type} → Record α → Nat
  | _, .build _ => 0
  | _, .field init _ _ => init.size + 1
  | _, .flatten init _ => init.size

/-- Whether a record may be read from an array. -/
def isPlain : {α : Type} → Record α → Bool
  | _, .build _ => true
  | _, .field init _ _ => init.isPlain
  | _, .flatten _ _ => false

/-- The place of a key among entries, and its part. -/
def find? (key : String) : List (String × Part) → Option (Nat × Part)
  | [] => none
  | (k, part) :: rest =>
    if k = key then some (0, part) else (find? key rest).map fun (i, p) => (i + 1, p)

/-- One field from the entries of an object. A missing field comes up after the
entries. -/
def readField (key : String) (mode : Mode β) (base : Nat) (entries : List (String × Part)) :
    Except Fault β :=
  match find? key entries with
  | some (i, part) => (mode.read part).mapError fun e => ⟨base + i, e⟩
  | none => match mode.absent? with
    | some value => .ok value
    | none => .error ⟨base + entries.length, .missingField key⟩

/-- A record from the entries of an object. Positions count from `base`. -/
def readEntries (entries : List (String × Part)) :
    {α : Type} → Nat → Record α → Except Fault α
  | _, _, .build value => .ok value
  | _, base, .field init key mode =>
    Fault.both (readEntries entries base init) (readField key mode base entries)
  | _, base, .flatten init inner =>
    Fault.both (readEntries entries base init)
      (readEntries entries (base + entries.length + 1) inner)

/-- A plain record from the items of an array, which stand in the order of the
fields. -/
def readItems (name : String) (count : Nat) (items : List Part) :
    {α : Type} → Record α → Except Fault α
  | _, .build value => .ok value
  | _, .field init _ mode =>
    let i := init.size
    Fault.both (readItems name count items init) <|
      match items[i]? with
      | some part => (mode.read part).mapError fun e => ⟨i, e⟩
      | none => match mode.absent? with
        | some value => .ok value
        | none => .error ⟨i, .invalidLength i (.recordOf name count)⟩
  | _, .flatten init _ =>
    Fault.both (readItems name count items init)
      (.error ⟨init.size, .invalidType (.array []) (.record name)⟩)

end Record

end Ambient
