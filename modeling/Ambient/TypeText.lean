import Ambient.Number.Shortest
import Ambient.Syntax.Type
import Ambient.Text.Quoted

namespace Ambient

/-!
# The text of types

A type annotation is written in the syntax of declaration files. A function type
is always in parentheses; other types get them only where they would bind more
loosely than what stands around them. A kind of annotation that is not known
cannot be written.
-/

/-- The kind of an annotation that cannot be written. -/
structure UnsupportedType where
  kind : String
deriving DecidableEq, Repr

def UnsupportedType.message (error : UnsupportedType) : String :=
  "unsupported type annotation: " ++ error.kind

/-- A text, unless something in it cannot be written. -/
abbrev Written (α : Type) := Except UnsupportedType α

/-- How tightly an operator binds its operands. -/
inductive Binding
  | union
  | intersection
  | element
deriving DecidableEq, Repr

def Binding.rank : Binding → Nat
  | .union => 0
  | .intersection => 1
  | .element => 2

/-- The operator that holds a type together. -/
def FlowType.binding? : FlowType → Option Binding
  | .union _ => some .union
  | .nullable _ => some .union
  | .intersection _ => some .intersection
  | _ => none

/-- An operand's text where an operator binds it, in parentheses if the operand
is held together more loosely. -/
def enclose (own : Option Binding) (context : Binding) (text : String) : String :=
  match own with
  | some own => if own.rank < context.rank then "(" ++ text ++ ")" else text
  | none => text

def anyText : String := "any"

/-- Texts separated by commas. -/
def commaList (texts : List String) : String := ", ".intercalate texts

/-- A list in angle brackets, or nothing if it is empty. -/
def generics (texts : List String) : String :=
  if texts = [] then "" else "<" ++ commaList texts ++ ">"

/-- Members in braces. -/
def braced (members : List String) : String :=
  if members = [] then "\x7b\x7d" else "\x7b " ++ commaList members ++ " \x7d"

def optionalMark (isOptional : Bool) : String := if isOptional then "?" else ""

def TypeRef.text : TypeRef → Written String
  | .identifier id => .ok id.name
  | .qualified qualification id => do return (← qualification.text) ++ "." ++ id.name
  | .unsupported kind => .error ⟨kind⟩

/-- The name of a member in an object type. -/
def PropertyKey.written : PropertyKey → Written String
  | .identifier id => .ok id.name
  | .string literal => .ok literal.text
  | .unsupported kind => .error ⟨kind⟩

/-- The name of a parameter of a function type; one without a name is named by
its place in the list. -/
def paramName (index : Nat) : Option Identifier → String
  | some id => id.name
  | none => "arg" ++ toString index

/-- The name of the index in an index signature, which need not be given. -/
def indexName : Option Identifier → String
  | some id => id.name
  | none => "key"

/-- A number as the source writes it, or else its shortest decimal. -/
def numberText (value : Double) (raw : Option String) : String := raw.getD value.text

mutual

def FlowType.text : FlowType → Written String
  | .generic name arguments => do
    let name ← name.text
    let arguments ← FlowType.texts arguments
    return name ++ generics arguments
  | .void => .ok "void"
  | .number => .ok "number"
  | .string => .ok "string"
  | .boolean => .ok "boolean"
  | .any => .ok anyText
  | .null => .ok "null"
  | .union types => do return " | ".intercalate (← FlowType.operands .union types)
  | .intersection types => do return " & ".intercalate (← FlowType.operands .intersection types)
  | .function type => do return "(" ++ (← type.text) ++ ")"
  | .array element => do return enclose element.binding? .element (← element.text) ++ "[]"
  | .tuple elements => do return "[" ++ commaList (← FlowType.texts elements) ++ "]"
  | .object type => type.text
  | .nullable inner => do
    return enclose inner.binding? .union (← inner.text) ++ " | null | undefined"
  | .stringLiteral value => .ok (Text.quote value)
  | .numberLiteral value raw => .ok (numberText value raw)
  | .booleanLiteral value => .ok (if value then "true" else "false")
  | .unsupported kind => .error ⟨kind⟩

/-- The texts of types one by one. -/
def FlowType.texts : List FlowType → Written (List String)
  | [] => .ok []
  | type :: rest => do
    let text ← type.text
    let texts ← FlowType.texts rest
    return text :: texts

/-- The texts of types as the operands of one operator. -/
def FlowType.operands (context : Binding) : List FlowType → Written (List String)
  | [] => .ok []
  | type :: rest => do
    let text ← type.text
    let texts ← FlowType.operands context rest
    return enclose type.binding? context text :: texts

/-- The text of an annotation; without one anything is allowed. -/
def FlowType.textOrAny : Option FlowType → Written String
  | none => .ok anyText
  | some type => type.text

def FunctionType.text : FunctionType → Written String
  | ⟨params, rest, result, typeParams⟩ => do
    let typeParams ← TypeParam.texts typeParams
    let paramTexts ← FunctionParam.texts 0 params
    let restTexts ← FunctionParam.restTexts params.length rest
    let result ← result.text
    return generics typeParams ++ "(" ++ commaList (paramTexts ++ restTexts) ++ ") => " ++ result

/-- The texts of parameters, the first of which stands at `index`. -/
def FunctionParam.texts (index : Nat) : List FunctionParam → Written (List String)
  | [] => .ok []
  | param :: rest => do
    let text ← param.text index
    let texts ← FunctionParam.texts (index + 1) rest
    return text :: texts

/-- The text of a rest parameter, if there is one. -/
def FunctionParam.restTexts (index : Nat) : Option FunctionParam → Written (List String)
  | none => .ok []
  | some param => do return [← param.restText index]

def FunctionParam.text (index : Nat) : FunctionParam → Written String
  | ⟨name, type, isOptional⟩ => do
    let type ← FlowType.textOrAny type
    return paramName index name ++ optionalMark isOptional ++ ": " ++ type

/-- A rest parameter is never marked as optional. -/
def FunctionParam.restText (index : Nat) : FunctionParam → Written String
  | ⟨name, type, _⟩ => do
    let type ← FlowType.textOrAny type
    return "..." ++ paramName index name ++ ": " ++ type

def TypeParam.texts : List TypeParam → Written (List String)
  | [] => .ok []
  | param :: rest => do
    let text ← param.text
    let texts ← TypeParam.texts rest
    return text :: texts

/-- A type parameter with its bound and its default. -/
def TypeParam.text : TypeParam → Written String
  | ⟨name, bound, fallback⟩ => do
    let bound ← FlowType.textAfter " extends " bound
    let fallback ← FlowType.textAfter " = " fallback
    return name ++ bound ++ fallback

/-- The text of a type behind a word, or nothing if there is no type. -/
def FlowType.textAfter (word : String) : Option FlowType → Written String
  | none => .ok ""
  | some type => do return word ++ (← type.text)

def ObjectType.text : ObjectType → Written String
  | ⟨properties, indexers, calls⟩ => do
    let propertyTexts ← ObjectMember.texts properties
    let indexerTexts ← Indexer.texts indexers
    let callTexts ← CallProperty.texts calls
    return braced (propertyTexts ++ indexerTexts ++ callTexts)

def ObjectMember.texts : List ObjectMember → Written (List String)
  | [] => .ok []
  | .property ⟨_, key, value, isOptional, _⟩ :: rest => do
    let name ← key.written
    let value ← value.text
    let texts ← ObjectMember.texts rest
    return (name ++ optionalMark isOptional ++ ": " ++ value) :: texts
  | .unsupported kind :: _ => .error ⟨kind⟩

def Indexer.texts : List Indexer → Written (List String)
  | [] => .ok []
  | ⟨_, id, key, value, _⟩ :: rest => do
    let keyText ← key.text
    let valueText ← value.text
    let texts ← Indexer.texts rest
    return ("[" ++ indexName id ++ ": " ++ keyText ++ "]: " ++ valueText) :: texts

/-- Call signatures of an object type, without their type parameters. -/
def CallProperty.texts : List CallProperty → Written (List String)
  | [] => .ok []
  | ⟨_, ⟨params, restParam, result, _⟩, _⟩ :: rest => do
    let paramTexts ← FunctionParam.texts 0 params
    let restTexts ← FunctionParam.restTexts params.length restParam
    let result ← result.text
    let texts ← CallProperty.texts rest
    return ("(" ++ commaList (paramTexts ++ restTexts) ++ "): " ++ result) :: texts

end

/-- The parameters of a function type, the rest parameter last. -/
def FunctionType.paramTexts (type : FunctionType) : Written (List String) := do
  let params ← FunctionParam.texts 0 type.params
  let rest ← FunctionParam.restTexts type.params.length type.rest
  return params ++ rest

/-- The text of an annotation, if there is one. -/
def FlowType.text? : Option FlowType → Written (Option String)
  | none => .ok none
  | some type => do return some (← type.text)

end Ambient
