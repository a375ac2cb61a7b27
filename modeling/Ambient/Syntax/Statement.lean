import Ambient.Syntax.Pattern

namespace Ambient

/-!
# Statements

The statements of a module that can contribute to its declarations. Any other
statement is kept with its kind and its place in the source.
-/

inductive ImportSpecifier
  /-- `{ imported as bound }` -/
  | named (origin : Origin) (imported bound : Identifier)
  | whole (origin : Origin) (bound : Identifier)
  /-- `* as bound` -/
  | all (origin : Origin) (bound : Identifier)
  | unsupported (kind : String)

structure ImportDeclaration where
  origin : Origin
  specifiers : List ImportSpecifier
  source : StringLiteral

/-- `export * from source` -/
structure ExportAll where
  origin : Origin
  source : StringLiteral

inductive ExportSpecifier
  /-- `bound as exported` -/
  | named (origin : Origin) (bound exported : Identifier)
  | unsupported (kind : String)

structure Declarator where
  origin : Origin
  id : Pattern

structure VariableDeclaration where
  origin : Origin
  /-- `var`, `let` or `const` -/
  keyword : String
  declarators : List Declarator

structure FunctionDeclaration where
  origin : Origin
  id : Option Identifier
  params : List Pattern
  result : Option FlowType
  typeParams : List TypeParam
  decorators : List Origin

inductive MethodKind
  | constructor
  | method
  | get
  | set
deriving DecidableEq, Repr

structure ClassMethod where
  origin : Origin
  key : PropertyKey
  kind : MethodKind
  computed : Bool
  isStatic : Bool
  params : List Pattern
  result : Option FlowType
  typeParams : List TypeParam
  decorators : List Origin

structure ClassProperty where
  origin : Origin
  key : PropertyKey
  type : Option FlowType
  isStatic : Bool
  computed : Bool
  decorators : List Origin

inductive ClassMember
  | method (member : ClassMethod)
  | property (member : ClassProperty)
  | unsupported (kind : String)

/-- What a class extends. -/
inductive Superclass
  | identifier (id : Identifier)
  | unsupported (kind : String)

/-- An interface that a class implements. -/
structure Implemented where
  origin : Origin
  id : Identifier
  arguments : List FlowType

structure ClassDeclaration where
  origin : Origin
  id : Option Identifier
  superclass : Option Superclass
  superArguments : List FlowType
  typeParams : List TypeParam
  implemented : List Implemented
  members : List ClassMember
  decorators : List Origin

/-- What an interface extends. -/
structure InterfaceBase where
  origin : Origin
  id : TypeRef
  arguments : List FlowType

structure InterfaceDeclaration where
  origin : Origin
  id : Identifier
  typeParams : List TypeParam
  bases : List InterfaceBase
  body : ObjectType

/-- A statement. -/
inductive Statement
  | imports (declaration : ImportDeclaration)
  | exportAll (declaration : ExportAll)
  | exportNamed (origin : Origin) (declaration : Option Statement)
      (specifiers : List ExportSpecifier) (source : Option StringLiteral)
  | exportDefault (origin : Origin) (declaration : Option Statement)
  | variables (declaration : VariableDeclaration)
  | function (declaration : FunctionDeclaration)
  | classes (declaration : ClassDeclaration)
  | interface (declaration : InterfaceDeclaration)
  | unsupported (kind : String) (origin : Origin)

namespace Statement

/-- The kind of a statement as syntax trees name it. -/
def kind : Statement → String
  | .imports _ => "ImportDeclaration"
  | .exportAll _ => "ExportAllDeclaration"
  | .exportNamed .. => "ExportNamedDeclaration"
  | .exportDefault .. => "ExportDefaultDeclaration"
  | .variables _ => "VariableDeclaration"
  | .function _ => "FunctionDeclaration"
  | .classes _ => "ClassDeclaration"
  | .interface _ => "InterfaceDeclaration"
  | .unsupported kind _ => kind

def origin : Statement → Origin
  | .imports d => d.origin
  | .exportAll d => d.origin
  | .exportNamed origin .. => origin
  | .exportDefault origin _ => origin
  | .variables d => d.origin
  | .function d => d.origin
  | .classes d => d.origin
  | .interface d => d.origin
  | .unsupported _ origin => origin

/-- The statement directly inside another one. -/
def nested : Statement → Option Statement
  | .exportNamed _ declaration _ _ => declaration
  | .exportDefault _ declaration => declaration
  | _ => none

/-- A statement by its kind and its place in the source. -/
def label (statement : Statement) : String :=
  statement.kind ++ "@" ++ toString statement.origin.start ++ ".." ++
    toString statement.origin.stop

end Statement

/-- The statements of a module. -/
structure Program where
  body : List Statement

end Ambient
