import Ambient.TypeText
import Ambient.Proofs.TypeGrammar.Form

namespace Ambient

open Lexical TypeGrammar

/-!
# What an annotation says

The normal form of an annotation, and the annotations whose names and literals
can stand in a declaration file as they are. A parameter without a name is named
by its place, one without an annotation takes anything, and a type that may be
missing is a union.
-/

/-- The names that lead to a type, the outermost first. -/
def TypeRef.path : TypeRef → List String
  | .identifier id => [id.name]
  | .qualified qualification id => qualification.path ++ [id.name]
  | .unsupported _ => []

def PropertyKey.form : PropertyKey → MemberNameForm
  | .identifier id => .word id.name
  | .string literal => .string literal.text
  | .unsupported kind => .string kind

mutual

/-- The normal form of an annotation. One that cannot be written has an empty
union in its place. -/
def FlowType.form : FlowType → TypeForm
  | .generic name arguments => .reference name.path (FlowType.forms arguments)
  | .void => .keyword "void"
  | .number => .keyword "number"
  | .string => .keyword "string"
  | .boolean => .keyword "boolean"
  | .any => .keyword anyText
  | .null => .keyword "null"
  | .union types => .join .union (FlowType.forms types)
  | .intersection types => .join .intersection (FlowType.forms types)
  | .function type => .function type.form type.resultForm
  | .array element => .array element.form
  | .tuple elements => .tuple (FlowType.forms elements)
  | .object type => .object type.forms
  | .nullable inner => .join .union [inner.form, .keyword "null", .keyword "undefined"]
  | .stringLiteral value => .string (textUnits value)
  | .numberLiteral value raw => .number (numberText value raw)
  | .booleanLiteral value => .keyword (if value then "true" else "false")
  | .unsupported _ => .compound .union []

def FlowType.forms : List FlowType → List TypeForm
  | [] => []
  | type :: rest => type.form :: FlowType.forms rest

def FlowType.form? : Option FlowType → Option TypeForm
  | none => none
  | some type => some type.form

/-- Without an annotation anything is allowed. -/
def FlowType.formOrAny : Option FlowType → TypeForm
  | none => .keyword anyText
  | some type => type.form

def FunctionType.form : FunctionType → SignatureForm
  | ⟨params, rest, _, typeParams⟩ =>
    ⟨TypeParam.forms typeParams,
      FunctionParam.forms 0 params ++ FunctionParam.restForms params.length rest⟩

def FunctionType.resultForm : FunctionType → TypeForm
  | ⟨_, _, result, _⟩ => result.form

def FunctionParam.form (index : Nat) : FunctionParam → ParameterForm
  | ⟨name, type, isOptional⟩ =>
    ⟨paramName index name, parameterSort isOptional, FlowType.formOrAny type⟩

def FunctionParam.forms (index : Nat) : List FunctionParam → List ParameterForm
  | [] => []
  | param :: rest => param.form index :: FunctionParam.forms (index + 1) rest

/-- The form of a rest parameter, which is the same if it is marked as optional. -/
def FunctionParam.restForm (index : Nat) : FunctionParam → ParameterForm
  | ⟨name, type, _⟩ => ⟨paramName index name, .rest, FlowType.formOrAny type⟩

def FunctionParam.restForms (index : Nat) : Option FunctionParam → List ParameterForm
  | none => []
  | some param => [param.restForm index]

def TypeParam.form : TypeParam → TypeParameterForm
  | ⟨name, bound, fallback⟩ => ⟨name, FlowType.form? bound, FlowType.form? fallback⟩

def TypeParam.forms : List TypeParam → List TypeParameterForm
  | [] => []
  | param :: rest => param.form :: TypeParam.forms rest

def ObjectType.forms : ObjectType → List MemberForm
  | ⟨properties, indexers, calls⟩ =>
    ObjectMember.forms properties ++ Indexer.forms indexers ++ CallProperty.forms calls

def ObjectMember.forms : List ObjectMember → List MemberForm
  | [] => []
  | .property ⟨_, key, value, isOptional, _⟩ :: rest =>
    .property key.form isOptional value.form :: ObjectMember.forms rest
  | .unsupported _ :: rest => ObjectMember.forms rest

def Indexer.forms : List Indexer → List MemberForm
  | [] => []
  | ⟨_, id, key, value, _⟩ :: rest =>
    .index (indexName id) key.form value.form :: Indexer.forms rest

def CallProperty.forms : List CallProperty → List MemberForm
  | [] => []
  | ⟨_, type, _⟩ :: rest => .call type.form type.resultForm :: CallProperty.forms rest

end

def TypeRef.isWellFormed : TypeRef → Bool
  | .identifier id => isTypeName id.name
  | .qualified qualification id => qualification.isWellFormed && isName id.name
  | .unsupported _ => false

def PropertyKey.isWellFormed : PropertyKey → Bool
  | .identifier id => isName id.name
  | .string literal => isLiteral literal.text
  | .unsupported _ => false

/-- Whether a name that need not be given can be bound. -/
def isBindable : Option Identifier → Bool
  | none => true
  | some id => isBindingName id.name

mutual

/-- Whether every part of an annotation is of a known kind, with names and literals
that can be written, no operator is without operands, and no call signature of an
object type has type parameters. -/
def FlowType.isWellFormed : FlowType → Bool
  | .generic name arguments => name.isWellFormed && FlowType.areWellFormed arguments
  | .void => true
  | .number => true
  | .string => true
  | .boolean => true
  | .any => true
  | .null => true
  | .union types => !types.isEmpty && FlowType.areWellFormed types
  | .intersection types => !types.isEmpty && FlowType.areWellFormed types
  | .function type => type.isWellFormed
  | .array element => element.isWellFormed
  | .tuple elements => FlowType.areWellFormed elements
  | .object type => type.isWellFormed
  | .nullable inner => inner.isWellFormed
  | .stringLiteral _ => true
  | .numberLiteral _ raw => raw.all isNumeral
  | .booleanLiteral _ => true
  | .unsupported _ => false

def FlowType.areWellFormed : List FlowType → Bool
  | [] => true
  | type :: rest => type.isWellFormed && FlowType.areWellFormed rest

def FlowType.isWellFormed? : Option FlowType → Bool
  | none => true
  | some type => type.isWellFormed

def FunctionType.isWellFormed : FunctionType → Bool
  | ⟨params, rest, result, typeParams⟩ =>
    TypeParam.areWellFormed typeParams && FunctionParam.areWellFormed params &&
      FunctionParam.isWellFormed? rest && result.isWellFormed

def FunctionParam.isWellFormed : FunctionParam → Bool
  | ⟨name, type, _⟩ => isBindable name && FlowType.isWellFormed? type

def FunctionParam.areWellFormed : List FunctionParam → Bool
  | [] => true
  | param :: rest => param.isWellFormed && FunctionParam.areWellFormed rest

def FunctionParam.isWellFormed? : Option FunctionParam → Bool
  | none => true
  | some param => param.isWellFormed

def TypeParam.isWellFormed : TypeParam → Bool
  | ⟨name, bound, fallback⟩ =>
    isTypeName name && FlowType.isWellFormed? bound && FlowType.isWellFormed? fallback

def TypeParam.areWellFormed : List TypeParam → Bool
  | [] => true
  | param :: rest => param.isWellFormed && TypeParam.areWellFormed rest

def ObjectType.isWellFormed : ObjectType → Bool
  | ⟨properties, indexers, calls⟩ =>
    ObjectMember.areWellFormed properties && Indexer.areWellFormed indexers &&
      CallProperty.areWellFormed calls

def ObjectMember.areWellFormed : List ObjectMember → Bool
  | [] => true
  | .property ⟨_, key, value, _, _⟩ :: rest =>
    key.isWellFormed && value.isWellFormed && ObjectMember.areWellFormed rest
  | .unsupported _ :: _ => false

def Indexer.areWellFormed : List Indexer → Bool
  | [] => true
  | ⟨_, id, key, value, _⟩ :: rest =>
    isBindable id && key.isWellFormed && value.isWellFormed && Indexer.areWellFormed rest

def CallProperty.areWellFormed : List CallProperty → Bool
  | [] => true
  | ⟨_, type, _⟩ :: rest =>
    type.typeParams.isEmpty && type.isWellFormed && CallProperty.areWellFormed rest

end

end Ambient
