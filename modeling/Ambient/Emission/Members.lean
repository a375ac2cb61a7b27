import Ambient.Emission.Options
import Ambient.Emission.Params
import Ambient.Syntax.Statement

namespace Ambient

/-!
# Members of classes and interfaces
-/

namespace Options

/-- Whether a member is left out because of its name. -/
def isExcluded (options : Options) (name : String) : Traced Bool :=
  if options.filter.excludes name then do
    Traced.note (.excluded name)
    return true
  else return false

/-- The name of a member, unless it is left out because of it or has none. A
computed name stands in brackets. -/
def memberName (options : Options) (key : PropertyKey) (computed : Bool) :
    Traced (Option String) :=
  match key with
  | .identifier id => do
    if ← options.isExcluded id.name then return none
    return some (if computed then "[" ++ id.name ++ "]" else id.name)
  | .string literal => do
    if ← options.isExcluded literal.value then return none
    return some literal.text
  | .unsupported _ => Traced.leaveOut .memberNameUnsupported

/-- A method of a class. A getter becomes a property, and a setter is left
out. -/
def classMethod (options : Options) (method : ClassMethod) : Traced (Option Declaration) := do
  let comments := method.origin.decoratedComments method.decorators
  let some params ← Pattern.params method.params | Traced.leaveOut .methodOmitted
  if method.kind = .constructor then return some ⟨comments, .classConstructor params⟩
  let some name ← options.memberName method.key method.computed | return none
  match method.kind with
  | .set => Traced.leaveOut (.setterOmitted name)
  | .get => do
    let type ← FlowType.textOrAny method.result
    return some ⟨comments, .classProperty name type method.isStatic⟩
  | _ => do
    let result ← FlowType.text? method.result
    let typeParams ← TypeParam.texts method.typeParams
    return some ⟨comments, .classMethod ⟨some name, params, result, typeParams⟩ method.isStatic⟩

def classProperty (options : Options) (property : ClassProperty) :
    Traced (Option Declaration) := do
  let some name ← options.memberName property.key property.computed | return none
  let type ← FlowType.textOrAny property.type
  return some ⟨property.origin.decoratedComments property.decorators,
    .classProperty name type property.isStatic⟩

def classMember (options : Options) : ClassMember → Traced (Option Declaration)
  | .method member => options.classMethod member
  | .property member => options.classProperty member
  | .unsupported kind => Traced.leaveOut (.classMemberOmitted kind)

/-- A property of an interface. One that holds a function is a method. -/
def interfaceProperty (options : Options) (property : ObjectProperty) :
    Traced (Option Declaration) := do
  let some name ← options.memberName property.key false | return none
  match property.value with
  | .function type => do
    let signature ← type.signature (some name)
    return some ⟨property.origin.comments,
      .interfaceMethod signature property.isStatic property.optional⟩
  | type => do
    let type ← type.text
    return some ⟨property.origin.comments,
      .interfaceProperty name type property.isStatic property.optional⟩

def interfaceMember (options : Options) : ObjectMember → Traced (Option Declaration)
  | .property member => options.interfaceProperty member
  | .unsupported kind => Traced.leaveOut (.interfaceMemberOmitted kind)

end Options

/-- An index signature as a member of an interface. -/
def Indexer.declaration (indexer : Indexer) : Written Declaration := do
  let keyType ← indexer.key.text
  let valueType ← indexer.value.text
  return ⟨indexer.origin.comments,
    .interfaceIndexer (indexName indexer.id) keyType valueType indexer.isStatic⟩

/-- A call signature as a member of an interface. -/
def CallProperty.declaration (call : CallProperty) : Written Declaration := do
  let signature ← call.value.signature none
  return ⟨call.origin.comments, .interfaceCall signature⟩

end Ambient
