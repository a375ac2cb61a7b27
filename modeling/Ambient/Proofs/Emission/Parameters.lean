import Ambient.Proofs.Emission.Result

namespace Ambient

/-!
# The parameters of patterns

Which parameter a pattern becomes. A list of patterns is taken over with one
parameter for each pattern, and a destructured object with one property for each
member, at every depth.
-/

/-- A pattern without its default, and whether it has one. -/
def Pattern.splitDefault : Pattern → Pattern × Bool
  | .assignment _ left => (left, true)
  | pattern => (pattern, false)

mutual

/-- The parameter that a destructured object becomes. -/
inductive ObjectPattern.Becomes : ObjectPattern → ObjectParameter → Prop
  | intro {origin : Origin} {members : List PatternMember} {type : Option FlowType}
      {properties : List DestructuredProperty} {text : Option String}
      (type_written : FlowType.text? type = .ok text)
      (each_member : List.Forall₂ PatternMember.Becomes members properties) :
      ObjectPattern.Becomes ⟨origin, members, type⟩ ⟨properties, text, false⟩

/-- The property that a member becomes. It is optional if the member has a default. -/
inductive PatternMember.Becomes : PatternMember → DestructuredProperty → Prop
  | property {origin : Origin} {key : PropertyKey} {value : Pattern} {computed : Bool}
      {name : String} {bound : Option ObjectParameter}
      (named : destructuredKey? key computed = some name)
      (binds : Pattern.Binds value.splitDefault.1 bound) :
      PatternMember.Becomes (.property origin key value computed)
        ⟨name, bound, value.splitDefault.2⟩

/-- What a property is bound to: a name, for which nothing is kept, or an object that is
destructured again. -/
inductive Pattern.Binds : Pattern → Option ObjectParameter → Prop
  | name (id : Identifier) : Pattern.Binds (.identifier id) none
  | object {pattern : ObjectPattern} {param : ObjectParameter}
      (nested : ObjectPattern.Becomes pattern param) : Pattern.Binds (.object pattern) (some param)

end

/-- The entry of a parameter list that a pattern becomes. A default makes it optional. -/
inductive Pattern.Becomes : Pattern → Param → Prop
  | name {id : Identifier} {text : Option String} (type_written : FlowType.text? id.type = .ok text) :
      Pattern.Becomes (.identifier id) (.named ⟨id.name, text, false, id.optional⟩)
  | defaultName {origin : Origin} {id : Identifier} {text : Option String}
      (type_written : FlowType.text? id.type = .ok text) :
      Pattern.Becomes (.assignment origin (.identifier id)) (.named ⟨id.name, text, false, true⟩)
  | object {pattern : ObjectPattern} {param : ObjectParameter} (becomes : pattern.Becomes param) :
      Pattern.Becomes (.object pattern) (.object param)
  | defaultObject {origin : Origin} {pattern : ObjectPattern} {param : ObjectParameter}
      (becomes : pattern.Becomes param) :
      Pattern.Becomes (.assignment origin (.object pattern))
        (.object { param with isOptional := true })
  | rest {origin : Origin} {id : Identifier} {type : Option FlowType} {text : Option String}
      (type_written : FlowType.text? (type.or id.type) = .ok text) :
      Pattern.Becomes (.rest ⟨origin, .identifier id, type⟩) (.named ⟨id.name, text, true, false⟩)

theorem PatternMember.properties_cons (origin : Origin) (key : PropertyKey) (value : Pattern)
    (computed : Bool) (rest : List PatternMember) :
    PatternMember.properties (.property origin key value computed :: rest) =
      match destructuredKey? key computed with
      | none => Traced.leaveOut .destructuredKeyUnsupported
      | some name => do
        match ← value.splitDefault.1.nestedParam name with
        | none => return none
        | some bound =>
          return (← PatternMember.properties rest).map (⟨name, bound, value.splitDefault.2⟩ :: ·) := by
  cases value <;> rfl

mutual

theorem ObjectPattern.becomes_of_param : ∀ (pattern : ObjectPattern) (param : ObjectParameter),
    pattern.param.result = .ok (some param) → pattern.Becomes param
  | ⟨origin, members, type⟩, param => by
      intro h
      simp only [ObjectPattern.param, Traced.bind_result] at h
      obtain ⟨text, htext, h⟩ := Written.bind_eq_ok_iff.mp h
      obtain ⟨found, hfound, h⟩ := Written.bind_eq_ok_iff.mp h
      cases found with
      | none => cases h
      | some properties =>
          cases h
          exact .intro htext (PatternMember.becomes_of_properties members properties hfound)

theorem PatternMember.becomes_of_properties :
    ∀ (members : List PatternMember) (properties : List DestructuredProperty),
      (PatternMember.properties members).result = .ok (some properties) →
      List.Forall₂ PatternMember.Becomes members properties
  | [], properties => by
      intro h
      cases h
      exact .nil
  | .property origin key value computed :: rest, properties => by
      intro h
      rw [PatternMember.properties_cons] at h
      -- A default is looked through, so what stands before it binds the property.
      have hbinds : ∀ name bound,
          (value.splitDefault.1.nestedParam name).result = .ok (some bound) →
          Pattern.Binds value.splitDefault.1 bound := by
        cases value with
        | assignment _ left => exact fun name bound => left.binds_of_nestedParam name bound
        | identifier id =>
            exact fun name bound => (Pattern.identifier id).binds_of_nestedParam name bound
        | object pattern =>
            exact fun name bound => (Pattern.object pattern).binds_of_nestedParam name bound
        | rest element =>
            exact fun name bound => (Pattern.rest element).binds_of_nestedParam name bound
        | unsupported kind =>
            exact fun name bound => (Pattern.unsupported kind).binds_of_nestedParam name bound
      cases hname : destructuredKey? key computed with
      | none =>
          rw [hname] at h
          cases h
      | some name =>
          simp only [hname, Traced.bind_result] at h
          obtain ⟨found, hfound, h⟩ := Written.bind_eq_ok_iff.mp h
          cases found with
          | none => cases h
          | some bound =>
              obtain ⟨others, hothers, h⟩ := Written.bind_eq_ok_iff.mp (Traced.bind_result _ _ ▸ h)
              obtain ⟨later, rfl, rfl⟩ := Option.map_eq_some_iff.mp (Except.ok.inj h)
              exact .cons (.property hname (hbinds name bound hfound))
                (PatternMember.becomes_of_properties rest later hothers)
  | .rest _ :: _, _ => fun h => by cases h
  | .unsupported _ :: _, _ => fun h => by cases h

theorem Pattern.binds_of_nestedParam :
    ∀ (pattern : Pattern) (key : String) (bound : Option ObjectParameter),
      (pattern.nestedParam key).result = .ok (some bound) → pattern.Binds bound
  | .identifier id, _, bound => by
      intro h
      cases h
      exact .name id
  | .object pattern, key, bound => by
      intro h
      obtain ⟨found, hfound, h⟩ := Written.bind_eq_ok_iff.mp (Traced.bind_result _ _ ▸ h)
      cases found with
      | none => cases h
      | some nested =>
          cases h
          exact .object (pattern.becomes_of_param nested hfound)
  | .assignment _ _, _, _ => fun h => by cases h
  | .rest _, _, _ => fun h => by cases h
  | .unsupported _, _, _ => fun h => by cases h

end

theorem Pattern.becomes_of_param {pattern : Pattern} {param : Param}
    (h : pattern.param.result = .ok (some param)) : pattern.Becomes param := by
  match pattern with
  | .identifier id =>
      obtain ⟨text, htext, h⟩ := Written.bind_eq_ok_iff.mp (Traced.bind_result _ _ ▸ h)
      cases h
      exact .name htext
  | .assignment _ (.identifier id) =>
      obtain ⟨text, htext, h⟩ := Written.bind_eq_ok_iff.mp (Traced.bind_result _ _ ▸ h)
      cases h
      exact .defaultName htext
  | .assignment _ (.object inner) =>
      obtain ⟨found, hfound, h⟩ := Written.bind_eq_ok_iff.mp (Traced.bind_result _ _ ▸ h)
      obtain ⟨nested, rfl, rfl⟩ := Option.map_eq_some_iff.mp (Except.ok.inj h)
      exact .defaultObject (inner.becomes_of_param nested hfound)
  | .object inner =>
      obtain ⟨found, hfound, h⟩ := Written.bind_eq_ok_iff.mp (Traced.bind_result _ _ ▸ h)
      obtain ⟨nested, rfl, rfl⟩ := Option.map_eq_some_iff.mp (Except.ok.inj h)
      exact .object (inner.becomes_of_param nested hfound)
  | .rest ⟨_, .identifier id, type⟩ =>
      obtain ⟨text, htext, h⟩ := Written.bind_eq_ok_iff.mp (Traced.bind_result _ _ ▸ h)
      cases h
      exact .rest htext
  | .assignment _ (.assignment _ _) => cases h
  | .assignment _ (.rest _) => cases h
  | .assignment _ (.unsupported _) => cases h
  | .rest ⟨_, .assignment _ _, _⟩ => cases h
  | .rest ⟨_, .rest _, _⟩ => cases h
  | .rest ⟨_, .object _, _⟩ => cases h
  | .rest ⟨_, .unsupported _, _⟩ => cases h
  | .unsupported _ => cases h

theorem Pattern.becomes_of_params {patterns : List Pattern} {params : List Param}
    (h : (Pattern.params patterns).result = .ok (some params)) :
    List.Forall₂ Pattern.Becomes patterns params :=
  (Traced.all_eq_some_iff.mp h).imp fun _ _ => Pattern.becomes_of_param

theorem Pattern.Becomes.not_rest_of_optional {pattern : Pattern} {param : Param}
    (h : pattern.Becomes param) : ¬ (param.isRest = true ∧ param.isOptional = true) := by
  cases h <;> simp [Param.isRest, Param.isOptional]

/-- A parameter of a function type at its place in the list. -/
structure ParamSlot where
  param : FunctionParam
  index : Nat
  isRest : Bool

/-- The entry of a parameter list that a parameter of a function type becomes. A rest
parameter is never optional. -/
inductive ParamSlot.Becomes : ParamSlot → Param → Prop
  | named {slot : ParamSlot} {text : Option String}
      (type_written : FlowType.text? slot.param.type = .ok text) :
      ParamSlot.Becomes slot (.named ⟨paramName slot.index slot.param.name, text, slot.isRest,
        slot.param.optional && !slot.isRest⟩)

theorem ParamSlot.Becomes.not_rest_of_optional {slot : ParamSlot} {param : Param}
    (h : slot.Becomes param) : ¬ (param.isRest = true ∧ param.isOptional = true) := by
  cases h
  cases hrest : slot.isRest <;> simp [Param.isRest, Param.isOptional]

/-- The parameters of a function type, the rest parameter last. -/
def FunctionType.slots (type : FunctionType) : List ParamSlot :=
  type.params.zipIdx.map (fun p => ⟨p.1, p.2, false⟩) ++
    type.rest.toList.map (⟨·, type.params.length, true⟩)

theorem FunctionParam.becomes_of_params {index : Nat} {l : List FunctionParam}
    {params : List Param} (h : FunctionParam.params index l = .ok params) :
    List.Forall₂ ParamSlot.Becomes ((l.zipIdx index).map fun p => ⟨p.1, p.2, false⟩) params := by
  induction l generalizing index params with
  | nil =>
      cases h
      exact .nil
  | cons param l ih =>
      obtain ⟨text, htext, h⟩ := Written.bind_eq_ok_iff.mp h
      obtain ⟨others, hothers, h⟩ := Written.bind_eq_ok_iff.mp h
      cases h
      rw [List.zipIdx_cons, List.map_cons, ← Bool.and_true param.optional]
      exact .cons (.named htext) (ih hothers)

theorem FunctionParam.becomes_of_restParams {index : Nat} {rest : Option FunctionParam}
    {params : List Param} (h : FunctionParam.restParams index rest = .ok params) :
    List.Forall₂ ParamSlot.Becomes (rest.toList.map (⟨·, index, true⟩)) params := by
  cases rest with
  | none =>
      cases h
      exact .nil
  | some param =>
      obtain ⟨text, htext, h⟩ := Written.bind_eq_ok_iff.mp h
      cases h
      rw [← Bool.and_false param.optional]
      exact .cons (.named htext) .nil

/-- A signature has one parameter for each parameter of its function type, in order, and
its result. -/
theorem FunctionType.becomes_of_signature {name : Option String} {type : FunctionType}
    {signature : Signature} (h : type.signature name = .ok signature) :
    signature.name = name ∧ signature.result.isSome = true ∧
      List.Forall₂ ParamSlot.Becomes type.slots signature.params := by
  obtain ⟨params, hparams, h⟩ := Written.bind_eq_ok_iff.mp h
  obtain ⟨rest, hrest, h⟩ := Written.bind_eq_ok_iff.mp h
  obtain ⟨result, _, h⟩ := Written.bind_eq_ok_iff.mp h
  obtain ⟨typeParams, _, h⟩ := Written.bind_eq_ok_iff.mp h
  cases h
  exact ⟨rfl, rfl, List.rel_append (FunctionParam.becomes_of_params hparams)
    (FunctionParam.becomes_of_restParams hrest)⟩

end Ambient
