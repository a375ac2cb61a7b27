import Ambient.Schema.Shape

namespace Ambient

/-!
# The records of a syntax tree

Which keys each kind of node has, and what stands under them. Keys that are not
listed are not looked at.
-/

open Place Mode

namespace Record

/-- The place of a node. Comments that stand among the fields of a node are kept
aside until the node is read. -/
def origin (kept : Bool) : Record Origin :=
  build (fun start stop comments => ⟨start, stop, comments⟩)
    |>.field "start" (nullable offset 0)
    |>.field "end" (nullable offset 0)
    |>.field "leadingComments" (nullable (list (comment kept)) [])

/-- A node that has a place of its own. -/
def node {α : Type} (f : Origin → α) : Record α := (build f).flatten (origin true)

def ofComment (kept : Bool) : Record Comment :=
  build (fun kind value => ⟨kind, value⟩)
    |>.field "type" (required (commentKind kept))
    |>.field "value" (required text)

def ofRawText : Record (Option String) := (build id).field "raw" (optional text)

def ofStringLiteral : Record StringLiteral :=
  node (fun origin value raw => ⟨origin, value, raw.join⟩)
    |>.field "value" (required text)
    |>.field "extra" (optional rawText)

def ofIdentifier : Record Identifier :=
  node (fun origin name type isOptional => ⟨origin, name, type, isOptional⟩)
    |>.field "name" (required text)
    |>.field "typeAnnotation" (optional wrappedType)
    |>.field "optional" (nullable flag false)

def ofWrappedType : Record FlowType := (build id).field "typeAnnotation" (required type)

def ofTypeArguments : Record (List FlowType) :=
  (build id).field "params" (nullable (list type) [])

def ofTypeParams : Record (List TypeParam) :=
  (build id).field "params" (nullable (list typeParam) [])

def ofTypeParam : Record TypeParam :=
  build (fun name bound fallback => ⟨name, bound, fallback⟩)
    |>.field "name" (required text)
    |>.field "bound" (optional wrappedType)
    |>.field "default" (optional type)

def ofGeneric : Record FlowType :=
  build (fun name arguments => .generic name (arguments.getD []))
    |>.field "id" (required typeRef)
    |>.field "typeParameters" (optional typeArguments)

/-- A type that consists of a list of types. -/
def ofTypes (f : List FlowType → FlowType) : Record FlowType :=
  (build f).field "types" (required (list type))

def ofNumberLiteral : Record FlowType :=
  build (fun value raw => .numberLiteral value raw.join)
    |>.field "value" (required double)
    |>.field "extra" (optional rawText)

def ofQualified : Record TypeRef :=
  build .qualified
    |>.field "qualification" (required typeRef)
    |>.field "id" (required identifier)

def ofFunctionType : Record FunctionType :=
  build (fun params rest result typeParams => ⟨params, rest, result, typeParams.getD []⟩)
    |>.field "params" (nullable (list functionParam) [])
    |>.field "rest" (optional functionParam)
    |>.field "returnType" (required type)
    |>.field "typeParameters" (optional typeParams)

def ofFunctionParam : Record FunctionParam :=
  build (fun name type isOptional => ⟨name, type, isOptional⟩)
    |>.field "name" (optional identifier)
    |>.field "typeAnnotation" (optional type)
    |>.field "optional" (nullable flag false)

def ofObjectType : Record ObjectType :=
  build (fun properties indexers calls => ⟨properties, indexers, calls⟩)
    |>.field "properties" (nullable (list objectMember) [])
    |>.field "indexers" (nullable (list indexer) [])
    |>.field "callProperties" (nullable (list callProperty) [])

def ofObjectProperty : Record ObjectMember :=
  node (fun origin key value isOptional isStatic =>
      .property ⟨origin, key, value, isOptional, isStatic⟩)
    |>.field "key" (required propertyKey)
    |>.field "value" (required type)
    |>.field "optional" (nullable flag false)
    |>.field "static" (nullable flag false)

def ofIndexer : Record Indexer :=
  node (fun origin id key value isStatic => ⟨origin, id, key, value, isStatic⟩)
    |>.field "id" (optional identifier)
    |>.field "key" (required type)
    |>.field "value" (required type)
    |>.field "static" (nullable flag false)

def ofCallProperty : Record CallProperty :=
  node (fun origin value isStatic => ⟨origin, value, isStatic⟩)
    |>.field "value" (required functionType)
    |>.field "static" (nullable flag false)

def ofAssignment : Record Pattern :=
  (node fun origin left => .assignment origin left).field "left" (required pattern)

def ofRestElement : Record RestElement :=
  node (fun origin argument type => ⟨origin, argument, type⟩)
    |>.field "argument" (required pattern)
    |>.field "typeAnnotation" (optional wrappedType)

def ofObjectPattern : Record ObjectPattern :=
  node (fun origin members type => ⟨origin, members, type⟩)
    |>.field "properties" (nullable (list patternMember) [])
    |>.field "typeAnnotation" (optional wrappedType)

def ofPatternProperty : Record PatternMember :=
  node (fun origin key value computed => .property origin key value computed)
    |>.field "key" (required propertyKey)
    |>.field "value" (required pattern)
    |>.field "computed" (nullable flag false)

def ofImport : Record Statement :=
  node (fun origin specifiers source => .imports ⟨origin, specifiers, source⟩)
    |>.field "specifiers" (nullable (list importSpecifier) [])
    |>.field "source" (required stringLiteral)

def ofNamedImport : Record ImportSpecifier :=
  node (fun origin imported bound => .named origin imported bound)
    |>.field "imported" (required identifier)
    |>.field "local" (required identifier)

/-- A specifier that binds the module under one name. -/
def ofModuleImport (f : Origin → Identifier → ImportSpecifier) : Record ImportSpecifier :=
  (node f).field "local" (required identifier)

def ofExportAll : Record Statement :=
  (node fun origin source => .exportAll ⟨origin, source⟩).field "source" (required stringLiteral)

def ofExportNamed : Record Statement :=
  node (fun origin declaration specifiers source =>
      .exportNamed origin declaration specifiers source)
    |>.field "declaration" (optional statement)
    |>.field "specifiers" (nullable (list exportSpecifier) [])
    |>.field "source" (optional stringLiteral)

def ofNamedExport : Record ExportSpecifier :=
  node (fun origin bound exported => .named origin bound exported)
    |>.field "local" (required identifier)
    |>.field "exported" (required identifier)

def ofExportDefault : Record Statement :=
  (node fun origin declaration => .exportDefault origin declaration).field "declaration"
    (optional statement)

def ofVariables : Record Statement :=
  node (fun origin keyword declarators => .variables ⟨origin, keyword, declarators⟩)
    |>.field "kind" (required text)
    |>.field "declarations" (nullable (list declarator) [])

def ofDeclarator : Record Declarator :=
  (node fun origin id => ⟨origin, id⟩).field "id" (required pattern)

def ofFunction : Record Statement :=
  node (fun origin id params result typeParams decorators =>
      .function ⟨origin, id, params, result, typeParams.getD [], decorators⟩)
    |>.field "id" (optional identifier)
    |>.field "params" (nullable (list pattern) [])
    |>.field "returnType" (optional wrappedType)
    |>.field "typeParameters" (optional typeParams)
    |>.field "decorators" (nullable (list decorator) [])

def ofClass : Record Statement :=
  node (fun origin id superclass superArguments typeParams implemented members decorators =>
      .classes ⟨origin, id, superclass, superArguments.getD [], typeParams.getD [], implemented,
        members, decorators⟩)
    |>.field "id" (optional identifier)
    |>.field "superClass" (optional superclass)
    |>.field "superTypeParameters" (optional typeArguments)
    |>.field "typeParameters" (optional typeParams)
    |>.field "implements" (nullable (list implemented) [])
    |>.field "body" (required classBody)
    |>.field "decorators" (nullable (list decorator) [])

def ofClassBody : Record (List ClassMember) :=
  (build id).field "body" (nullable (list classMember) [])

def ofImplemented : Record Implemented :=
  node (fun origin id arguments => ⟨origin, id, arguments.getD []⟩)
    |>.field "id" (required identifier)
    |>.field "typeParameters" (optional typeArguments)

def ofInterface : Record Statement :=
  node (fun origin id typeParams bases body =>
      .interface ⟨origin, id, typeParams.getD [], bases, body⟩)
    |>.field "id" (required identifier)
    |>.field "typeParameters" (optional typeParams)
    |>.field "extends" (nullable (list interfaceBase) [])
    |>.field "body" (required objectType)

def ofInterfaceBase : Record InterfaceBase :=
  node (fun origin id arguments => ⟨origin, id, arguments.getD []⟩)
    |>.field "id" (required typeRef)
    |>.field "typeParameters" (optional typeArguments)

def ofClassMethod : Record ClassMember :=
  node (fun origin key kind computed isStatic params result typeParams decorators =>
      .method ⟨origin, key, kind, computed, isStatic, params, result, typeParams.getD [],
        decorators⟩)
    |>.field "key" (required propertyKey)
    |>.field "kind" (defaulted methodKind .method)
    |>.field "computed" (nullable flag false)
    |>.field "static" (nullable flag false)
    |>.field "params" (nullable (list pattern) [])
    |>.field "returnType" (optional wrappedType)
    |>.field "typeParameters" (optional typeParams)
    |>.field "decorators" (nullable (list decorator) [])

def ofClassProperty : Record ClassMember :=
  node (fun origin key type isStatic computed decorators =>
      .property ⟨origin, key, type, isStatic, computed, decorators⟩)
    |>.field "key" (required propertyKey)
    |>.field "typeAnnotation" (optional wrappedType)
    |>.field "static" (nullable flag false)
    |>.field "computed" (nullable flag false)
    |>.field "decorators" (nullable (list decorator) [])

/-- A statement that is not looked into. -/
def ofOther (kind : String) : Record Statement :=
  build (fun start stop comments => .unsupported kind ⟨start, stop, comments⟩)
    |>.field "start" (nullable offset 0)
    |>.field "end" (nullable offset 0)
    |>.field "leadingComments" (nullable (list (comment false)) [])

/-- The record of a node that is read as one of several kinds. -/
def map : {α β : Type} → (α → β) → Record α → Record β
  | _, _, f, .build value => .build (f value)
  | _, _, f, .field init key mode => .field (init.map fun g b => f (g b)) key mode
  | _, _, f, .flatten init inner => .flatten (init.map fun g b => f (g b)) inner

end Record

namespace Place

/-- The kinds of annotations. -/
def typeCases : List (String × Record FlowType) := [
  ("GenericTypeAnnotation", Record.ofGeneric),
  ("VoidTypeAnnotation", .build .void),
  ("NumberTypeAnnotation", .build .number),
  ("StringTypeAnnotation", .build .string),
  ("BooleanTypeAnnotation", .build .boolean),
  ("AnyTypeAnnotation", .build .any),
  ("NullLiteralTypeAnnotation", .build .null),
  ("UnionTypeAnnotation", Record.ofTypes .union),
  ("IntersectionTypeAnnotation", Record.ofTypes .intersection),
  ("FunctionTypeAnnotation", Record.ofFunctionType.map .function),
  ("ArrayTypeAnnotation", Record.field (.build .array) "elementType" (required type)),
  ("TupleTypeAnnotation", Record.ofTypes .tuple),
  ("ObjectTypeAnnotation", Record.ofObjectType.map .object),
  ("NullableTypeAnnotation", Record.field (.build .nullable) "typeAnnotation" (required type)),
  ("StringLiteralTypeAnnotation", Record.field (.build .stringLiteral) "value" (required text)),
  ("NumberLiteralTypeAnnotation", Record.ofNumberLiteral),
  ("BooleanLiteralTypeAnnotation", Record.field (.build .booleanLiteral) "value" (required flag))]

/-- The kinds of statements. -/
def statementCases : List (String × Record Statement) := [
  ("ImportDeclaration", Record.ofImport),
  ("ExportAllDeclaration", Record.ofExportAll),
  ("ExportNamedDeclaration", Record.ofExportNamed),
  ("ExportDefaultDeclaration", Record.ofExportDefault),
  ("VariableDeclaration", Record.ofVariables),
  ("FunctionDeclaration", Record.ofFunction),
  ("ClassDeclaration", Record.ofClass),
  ("InterfaceDeclaration", Record.ofInterface)]

/-- The form of the values at a place. -/
def shape : (place : Place) → Shape place.Result
  | .text => .text
  | .flag => .flag
  | .offset => .offset
  | .double => .double
  | .list item => .list item
  | .comment kept => .record "Comment" kept (Record.ofComment kept)
  | .commentKind kept =>
    .variant [("CommentLine", .line), ("CommentBlock", .block), ("Unknown", .unknown)]
      (some .unknown) kept
  | .decorator => .record "Decorator" false (Record.node id)
  | .rawText => .record "RawExtra" false Record.ofRawText
  | .stringLiteral => .record "StringLiteral" false Record.ofStringLiteral
  | .identifier => .record "Identifier" false Record.ofIdentifier
  | .propertyKey =>
    .tagged [("Identifier", Record.ofIdentifier.map .identifier),
        ("StringLiteral", Record.ofStringLiteral.map .string)]
      fun kind => .build (.unsupported kind)
  | .typeRef =>
    .tagged [("Identifier", Record.ofIdentifier.map .identifier),
        ("QualifiedTypeIdentifier", Record.ofQualified)]
      fun kind => .build (.unsupported kind)
  | .wrappedType => .record "TypeAnnotation" false Record.ofWrappedType
  | .type => .tagged typeCases fun kind => .build (.unsupported kind)
  | .typeArguments => .record "TypeParameterInstantiation" false Record.ofTypeArguments
  | .typeParams => .record "TypeParameterDeclaration" false Record.ofTypeParams
  | .typeParam => .record "TypeParameter" false Record.ofTypeParam
  | .functionType => .record "FunctionType" false Record.ofFunctionType
  | .functionParam => .record "FunctionTypeParam" false Record.ofFunctionParam
  | .objectType => .record "ObjectType" false Record.ofObjectType
  | .objectMember =>
    .tagged [("ObjectTypeProperty", Record.ofObjectProperty)]
      fun kind => .build (.unsupported kind)
  | .indexer => .record "ObjectTypeIndexer" false Record.ofIndexer
  | .callProperty => .record "ObjectTypeCallProperty" false Record.ofCallProperty
  | .pattern =>
    .tagged [("Identifier", Record.ofIdentifier.map .identifier),
        ("AssignmentPattern", Record.ofAssignment),
        ("RestElement", Record.ofRestElement.map .rest),
        ("ObjectPattern", Record.ofObjectPattern.map .object)]
      fun kind => .build (.unsupported kind)
  | .patternMember =>
    .tagged [("ObjectProperty", Record.ofPatternProperty),
        ("RestElement", Record.ofRestElement.map .rest)]
      fun kind => .build (.unsupported kind)
  | .importSpecifier =>
    .tagged [("ImportSpecifier", Record.ofNamedImport),
        ("ImportDefaultSpecifier", Record.ofModuleImport .whole),
        ("ImportNamespaceSpecifier", Record.ofModuleImport .all)]
      fun kind => .build (.unsupported kind)
  | .exportSpecifier =>
    .tagged [("ExportSpecifier", Record.ofNamedExport)] fun kind => .build (.unsupported kind)
  | .declarator => .record "VariableDeclarator" false Record.ofDeclarator
  | .superclass =>
    .tagged [("Identifier", Record.ofIdentifier.map .identifier)]
      fun kind => .build (.unsupported kind)
  | .implemented => .record "ClassImplements" false Record.ofImplemented
  | .classBody => .record "ClassBody" false Record.ofClassBody
  | .classMember =>
    .tagged [("ClassMethod", Record.ofClassMethod), ("ClassProperty", Record.ofClassProperty)]
      fun kind => .build (.unsupported kind)
  | .methodKind =>
    .variant [("constructor", .constructor), ("method", .method), ("get", .get), ("set", .set)]
      none false
  | .interfaceBase => .record "InterfaceExtends" false Record.ofInterfaceBase
  | .statement => .tagged statementCases Record.ofOther

end Place

end Ambient
