import Ambient.Syntax.Statement
import Ambient.Text.Blank

namespace Ambient

/-!
# Plain modules

Modules whose names, keywords, strings and raw texts have neither a brace nor a newline
and do not begin with white space. What is never written is not looked at: comments,
kinds of unknown nodes, and the types of names that are not bound.
-/

/-- A text without braces and newlines that does not begin with white space. -/
def isPlain (text : String) : Bool :=
  text.toList.all (fun c => c != '{' && c != '}' && c != '\n') &&
    text.toList.head?.all (!Text.isBlank ·)

def isPlainName (text : String) : Bool := isPlain text && text != ""

def StringLiteral.isPlain (literal : StringLiteral) : Bool :=
  Ambient.isPlain literal.value && literal.raw.all Ambient.isPlain

def TypeRef.isPlain : TypeRef → Bool
  | .identifier id => isPlainName id.name
  | .qualified qualification id => qualification.isPlain && isPlainName id.name
  | .unsupported _ => true

def PropertyKey.isPlain : PropertyKey → Bool
  | .identifier id => isPlainName id.name
  | .string literal => literal.isPlain
  | .unsupported _ => true

/-- Whether a name that need not be given is plain. -/
def isPlainName? : Option Identifier → Bool
  | none => true
  | some id => isPlainName id.name

mutual

def FlowType.isPlain : FlowType → Bool
  | .generic name arguments => name.isPlain && FlowType.arePlain arguments
  | .void => true
  | .number => true
  | .string => true
  | .boolean => true
  | .any => true
  | .null => true
  | .union types => FlowType.arePlain types
  | .intersection types => FlowType.arePlain types
  | .function type => type.isPlain
  | .array element => element.isPlain
  | .tuple elements => FlowType.arePlain elements
  | .object type => type.isPlain
  | .nullable inner => inner.isPlain
  | .stringLiteral value => Ambient.isPlain value
  | .numberLiteral _ raw => raw.all Ambient.isPlain
  | .booleanLiteral _ => true
  | .unsupported _ => true

def FlowType.arePlain : List FlowType → Bool
  | [] => true
  | type :: rest => type.isPlain && FlowType.arePlain rest

def FlowType.isPlain? : Option FlowType → Bool
  | none => true
  | some type => type.isPlain

def FunctionType.isPlain : FunctionType → Bool
  | ⟨params, rest, result, typeParams⟩ =>
    FunctionParam.arePlain params && FunctionParam.isPlain? rest && result.isPlain &&
      TypeParam.arePlain typeParams

def FunctionParam.isPlain : FunctionParam → Bool
  | ⟨name, type, _⟩ => isPlainName? name && FlowType.isPlain? type

def FunctionParam.arePlain : List FunctionParam → Bool
  | [] => true
  | param :: rest => param.isPlain && FunctionParam.arePlain rest

def FunctionParam.isPlain? : Option FunctionParam → Bool
  | none => true
  | some param => param.isPlain

def TypeParam.isPlain : TypeParam → Bool
  | ⟨name, bound, fallback⟩ =>
    isPlainName name && FlowType.isPlain? bound && FlowType.isPlain? fallback

def TypeParam.arePlain : List TypeParam → Bool
  | [] => true
  | param :: rest => param.isPlain && TypeParam.arePlain rest

def ObjectType.isPlain : ObjectType → Bool
  | ⟨properties, indexers, calls⟩ =>
    ObjectMember.arePlain properties && Indexer.arePlain indexers && CallProperty.arePlain calls

def ObjectMember.arePlain : List ObjectMember → Bool
  | [] => true
  | .property ⟨_, key, value, _, _⟩ :: rest =>
    key.isPlain && value.isPlain && ObjectMember.arePlain rest
  | .unsupported _ :: rest => ObjectMember.arePlain rest

def Indexer.arePlain : List Indexer → Bool
  | [] => true
  | ⟨_, id, key, value, _⟩ :: rest =>
    isPlainName? id && key.isPlain && value.isPlain && Indexer.arePlain rest

def CallProperty.arePlain : List CallProperty → Bool
  | [] => true
  | ⟨_, type, _⟩ :: rest => type.isPlain && CallProperty.arePlain rest

end

/-- A name that is bound, with its type. -/
def Identifier.isPlain (id : Identifier) : Bool :=
  isPlainName id.name && FlowType.isPlain? id.type

mutual

def Pattern.isPlain : Pattern → Bool
  | .identifier id => id.isPlain
  | .assignment _ left => left.isPlain
  | .rest element => element.isPlain
  | .object pattern => pattern.isPlain
  | .unsupported _ => true

def RestElement.isPlain : RestElement → Bool
  | ⟨_, argument, type⟩ => argument.isPlain && FlowType.isPlain? type

def ObjectPattern.isPlain : ObjectPattern → Bool
  | ⟨_, members, type⟩ => PatternMember.arePlain members && FlowType.isPlain? type

def PatternMember.arePlain : List PatternMember → Bool
  | [] => true
  | .property _ key value _ :: rest =>
    key.isPlain && value.isPlain && PatternMember.arePlain rest
  | .rest element :: rest => element.isPlain && PatternMember.arePlain rest
  | .unsupported _ :: rest => PatternMember.arePlain rest

end

def ImportSpecifier.isPlain : ImportSpecifier → Bool
  | .named _ imported bound => isPlainName imported.name && isPlainName bound.name
  | .whole _ bound => isPlainName bound.name
  | .all _ bound => isPlainName bound.name
  | .unsupported _ => true

def ExportSpecifier.isPlain : ExportSpecifier → Bool
  | .named _ bound exported => isPlainName bound.name && isPlainName exported.name
  | .unsupported _ => true

def VariableDeclaration.isPlain (d : VariableDeclaration) : Bool :=
  Ambient.isPlain d.keyword && d.declarators.all (·.id.isPlain)

def FunctionDeclaration.isPlain (d : FunctionDeclaration) : Bool :=
  isPlainName? d.id && d.params.all Pattern.isPlain && FlowType.isPlain? d.result &&
    TypeParam.arePlain d.typeParams

def ClassMember.isPlain : ClassMember → Bool
  | .method member =>
    member.key.isPlain && member.params.all Pattern.isPlain && FlowType.isPlain? member.result &&
      TypeParam.arePlain member.typeParams
  | .property member => member.key.isPlain && FlowType.isPlain? member.type
  | .unsupported _ => true

def Superclass.isPlain : Superclass → Bool
  | .identifier id => isPlainName id.name
  | .unsupported _ => true

def ClassDeclaration.isPlain (d : ClassDeclaration) : Bool :=
  isPlainName? d.id && d.superclass.all Superclass.isPlain &&
    FlowType.arePlain d.superArguments && TypeParam.arePlain d.typeParams &&
    d.implemented.all (fun base => isPlainName base.id.name && FlowType.arePlain base.arguments) &&
    d.members.all ClassMember.isPlain

def InterfaceDeclaration.isPlain (d : InterfaceDeclaration) : Bool :=
  isPlainName d.id.name && TypeParam.arePlain d.typeParams &&
    d.bases.all (fun base => base.id.isPlain && FlowType.arePlain base.arguments) &&
    d.body.isPlain

def Statement.isPlain : Statement → Bool
  | .imports d => d.specifiers.all ImportSpecifier.isPlain && d.source.isPlain
  | .exportAll d => d.source.isPlain
  | .exportNamed _ declaration specifiers source =>
    (match declaration with
      | some inner => inner.isPlain
      | none => true) &&
      specifiers.all ExportSpecifier.isPlain && source.all StringLiteral.isPlain
  | .exportDefault _ declaration =>
    match declaration with
    | some inner => inner.isPlain
    | none => true
  | .variables d => d.isPlain
  | .function d => d.isPlain
  | .classes d => d.isPlain
  | .interface d => d.isPlain
  | .unsupported _ _ => true

/-- Whether a statement begins with a word, which a variable statement without a keyword
does not. -/
def Statement.hasKeyword : Statement → Bool
  | .variables d => d.keyword != ""
  | _ => true

/-- Whether all names, keywords, strings and raw texts of a program are plain, and no name
is empty. -/
def Program.isPlain (program : Program) : Bool := program.body.all Statement.isPlain

end Ambient
