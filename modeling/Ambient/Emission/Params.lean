import Ambient.Declaration.Basic
import Ambient.Emission.Event
import Ambient.Syntax.Pattern

namespace Ambient

/-!
# Parameters

The patterns of a parameter list become the parameters of a signature. A list
is taken over as a whole: if one pattern has no counterpart, none is taken over.
-/

/-- The name of a destructured property, unless it is computed or not known. -/
def destructuredKey? : PropertyKey → Bool → Option String
  | .identifier id, false => some id.name
  | .string literal, false => some literal.text
  | _, _ => none

mutual

def ObjectPattern.param : ObjectPattern → Traced (Option ObjectParameter)
  | ⟨_, members, type⟩ => do
    let type ← FlowType.text? type
    match ← PatternMember.properties members with
    | none => return none
    | some properties => return some ⟨properties, type, false⟩

/-- The properties of a destructured parameter, or nothing if a member has no
counterpart. -/
def PatternMember.properties : List PatternMember → Traced (Option (List DestructuredProperty))
  | [] => return some []
  | .property _ key (.assignment _ left) computed :: rest =>
    match destructuredKey? key computed with
    | none => Traced.leaveOut .destructuredKeyUnsupported
    | some key => do
      match ← left.nestedParam key with
      | none => return none
      | some value =>
        return (← PatternMember.properties rest).map (⟨key, value, true⟩ :: ·)
  | .property _ key value computed :: rest =>
    match destructuredKey? key computed with
    | none => Traced.leaveOut .destructuredKeyUnsupported
    | some key => do
      match ← value.nestedParam key with
      | none => return none
      | some value =>
        return (← PatternMember.properties rest).map (⟨key, value, false⟩ :: ·)
  | _ :: _ => Traced.leaveOut .destructuredRestUnsupported

/-- What a property is bound to: a name, for which nothing is kept, or a nested
pattern. -/
def Pattern.nestedParam (key : String) : Pattern → Traced (Option (Option ObjectParameter))
  | .identifier _ => return some none
  | .object pattern => do
    match ← pattern.param with
    | none => return none
    | some nested => return some (some nested)
  | _ => Traced.leaveOut (.nestedPatternUnsupported key)

end

/-- The parameter that a pattern stands for. -/
def Pattern.param : Pattern → Traced (Option Param)
  | .identifier id => do
    let type ← FlowType.text? id.type
    return some (.named ⟨id.name, type, false, id.optional⟩)
  | .assignment _ (.identifier id) => do
    let type ← FlowType.text? id.type
    return some (.named ⟨id.name, type, false, true⟩)
  | .assignment _ (.object pattern) => do
    let param ← pattern.param
    return param.map fun param => .object { param with isOptional := true }
  | .assignment _ _ => Traced.leaveOut .defaultedParamUnsupported
  | .rest ⟨_, .identifier id, type⟩ => do
    let type ← FlowType.text? (type.or id.type)
    return some (.named ⟨id.name, type, true, false⟩)
  | .rest _ => Traced.leaveOut .restParamUnsupported
  | .object pattern => do return (← pattern.param).map .object
  | .unsupported kind => Traced.leaveOut (.paramUnsupported kind)

/-- The parameters that a list of patterns stands for. -/
def Pattern.params (patterns : List Pattern) : Traced (Option (List Param)) :=
  Traced.all Pattern.param patterns

/-- The parameters of a function type, the first of which stands at `index`. -/
def FunctionParam.params (index : Nat) : List FunctionParam → Written (List Param)
  | [] => .ok []
  | param :: rest => do
    let type ← FlowType.text? param.type
    let params ← FunctionParam.params (index + 1) rest
    return .named ⟨paramName index param.name, type, false, param.optional⟩ :: params

/-- The rest parameter of a function type, if it has one. -/
def FunctionParam.restParams (index : Nat) : Option FunctionParam → Written (List Param)
  | none => .ok []
  | some param => do
    let type ← FlowType.text? param.type
    return [.named ⟨paramName index param.name, type, true, false⟩]

/-- The signature of a function type. -/
def FunctionType.signature (name : Option String) (type : FunctionType) : Written Signature := do
  let params ← FunctionParam.params 0 type.params
  let rest ← FunctionParam.restParams type.params.length type.rest
  let result ← type.result.text
  let typeParams ← TypeParam.texts type.typeParams
  return ⟨name, params ++ rest, some result, typeParams⟩

end Ambient
