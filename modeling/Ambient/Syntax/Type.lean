import Ambient.Number.Double
import Ambient.Syntax.Basic

namespace Ambient

/-!
# Type annotations

The types that a source module may write on its bindings. A kind of annotation
that is not known is kept by name, so that it can be reported.
-/

mutual

/-- A type annotation. -/
inductive FlowType
  | generic (name : TypeRef) (arguments : List FlowType)
  | void
  | number
  | string
  | boolean
  | any
  | null
  | union (types : List FlowType)
  | intersection (types : List FlowType)
  | function (type : FunctionType)
  | array (element : FlowType)
  | tuple (elements : List FlowType)
  | object (type : ObjectType)
  | nullable (inner : FlowType)
  | stringLiteral (value : String)
  | numberLiteral (value : Double) (raw : Option String)
  | booleanLiteral (value : Bool)
  | unsupported (kind : String)

/-- What a generic type refers to: a name, or a name inside a namespace. -/
inductive TypeRef
  | identifier (id : Identifier)
  | qualified (qualification : TypeRef) (id : Identifier)
  | unsupported (kind : String)

/-- A name. Where it is bound it may be annotated and optional. -/
structure Identifier where
  origin : Origin
  name : String
  type : Option FlowType
  optional : Bool

/-- The name of a member. -/
inductive PropertyKey
  | identifier (id : Identifier)
  | string (literal : StringLiteral)
  | unsupported (kind : String)

/-- A function type with its type parameters. -/
structure FunctionType where
  params : List FunctionParam
  rest : Option FunctionParam
  result : FlowType
  typeParams : List TypeParam

/-- A parameter of a function type, which need not have a name. -/
structure FunctionParam where
  name : Option Identifier
  type : Option FlowType
  optional : Bool

/-- A declared type parameter with its bound and its default. -/
structure TypeParam where
  name : String
  bound : Option FlowType
  fallback : Option FlowType

/-- An object type, which is also the body of an interface. -/
structure ObjectType where
  properties : List ObjectMember
  indexers : List Indexer
  calls : List CallProperty

/-- An entry among the properties of an object type. -/
inductive ObjectMember
  | property (member : ObjectProperty)
  | unsupported (kind : String)

structure ObjectProperty where
  origin : Origin
  key : PropertyKey
  value : FlowType
  optional : Bool
  isStatic : Bool

/-- An index signature of an object type. -/
structure Indexer where
  origin : Origin
  id : Option Identifier
  key : FlowType
  value : FlowType
  isStatic : Bool

/-- A call signature of an object type. -/
structure CallProperty where
  origin : Origin
  value : FunctionType
  isStatic : Bool

end

/-- The name by which a member is filtered: an identifier's name or a string's
value. -/
def PropertyKey.name? : PropertyKey → Option String
  | .identifier id => some id.name
  | .string literal => some literal.value
  | .unsupported _ => none

/-- A member name as it is written, a string as it stands in the source. -/
def PropertyKey.text? : PropertyKey → Option String
  | .identifier id => some id.name
  | .string literal => some literal.text
  | .unsupported _ => none

end Ambient
