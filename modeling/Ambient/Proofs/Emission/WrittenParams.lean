import Ambient.Proofs.Emission.BoundNames
import Ambient.Proofs.Emission.ParamLists
import Ambient.Proofs.Layout.Pieces
import Ambient.Proofs.TypeText.Parts

namespace Ambient

/-!
# What parameters are written with

A destructured parameter is written with the keys of its pattern at every depth, and with the
types of the patterns inside it as far as no pattern around them has a type itself. A named one
is written with its type.
-/

section

variable {layout : Layout}

namespace DestructuredProperty

variable {property : DestructuredProperty} {nested : ObjectParameter}

theorem within_key (property : DestructuredProperty) :
    Text.Within property.key (property.pattern layout) := by
  cases hvalue : property.value with
  | none =>
      rw [pattern_of_plain layout hvalue]
      exact .refl _
  | some nested =>
      rw [pattern_of_nested layout hvalue]
      exact ((Text.Within.refl _).append_right _).append_right _

theorem within_nested (h : property.value = some nested) :
    Text.Within (nested.pattern layout) (property.pattern layout) := by
  rw [pattern_of_nested layout h]
  exact (Text.Within.refl _).append_left _

theorem within_shapeType (h : property.value = some nested) (inferred : Bool) :
    Text.Within (nested.typeText layout) (property.shapeType layout inferred) := by
  rw [shapeType_eq_row, row, typeText, h]
  exact ((Text.Within.refl _).append_left _).append_right _

theorem exists_mem_shapeTypes (layout : Layout) {properties : List DestructuredProperty}
    (h : property ∈ properties) :
    ∃ inferred, Text.indent layout.step (property.shapeType layout inferred) ∈
      shapeTypes layout properties := by
  obtain ⟨i, hi⟩ := List.getElem?_of_mem h
  exact ⟨_, List.mem_of_getElem? (getElem?_shapeTypes layout hi)⟩

end DestructuredProperty

namespace ObjectParameter

variable {param : ObjectParameter} {property : DestructuredProperty}

theorem within_pattern (hstep : ∀ c ∈ layout.step.toList, c = ' ')
    (h : property ∈ param.properties) :
    Text.Within (property.pattern layout) (param.pattern layout) := by
  obtain ⟨properties, type, isOptional⟩ := param
  have hmem : Text.indent layout.step (property.pattern layout) ∈
      DestructuredProperty.patterns layout properties := by
    rw [DestructuredProperty.patterns_eq_map]
    exact List.mem_map_of_mem h
  cases properties with
  | nil => cases h
  | cons first rest =>
      rw [pattern]
      refine (Text.Within.indent hstep _).trans (.append_right (.append_left ?_ _) _)
      exact .intercalate _ hmem

theorem within_typeText (hstep : ∀ c ∈ layout.step.toList, c = ' ') (htype : param.type = none)
    (h : property ∈ param.properties) :
    ∃ inferred, Text.Within (property.shapeType layout inferred) (param.typeText layout) := by
  obtain ⟨inferred, hmem⟩ := DestructuredProperty.exists_mem_shapeTypes layout h
  refine ⟨inferred, ?_⟩
  rw [typeText_eq_shape layout htype, shape, if_neg (List.ne_nil_of_mem hmem)]
  refine (Text.Within.indent hstep _).trans (.append_right (.append_left ?_ _) _)
  exact .intercalate _ hmem

theorem typeText_of_type {text : String} (h : param.type = some text) :
    param.typeText layout = text := by
  obtain ⟨properties, type, isOptional⟩ := param
  obtain rfl : type = some text := h
  rw [typeText]

end ObjectParameter

theorem ObjectPattern.Becomes.exists_property {pattern : ObjectPattern} {param : ObjectParameter}
    (h : pattern.Becomes param) {member : PatternMember} (hmember : member ∈ pattern.members) :
    ∃ property ∈ param.properties, member.Becomes property :=
  exists_of_mem_forall₂ h.forall₂.flip hmember

theorem PatternMember.Becomes.destructuredKey?_eq {origin : Origin} {key : PropertyKey}
    {value : Pattern} {computed : Bool} {property : DestructuredProperty}
    (h : (PatternMember.property origin key value computed).Becomes property) :
    destructuredKey? key computed = some property.key := by
  generalize hmember : PatternMember.property origin key value computed = member at h
  cases h with
  | property named =>
      obtain ⟨rfl, rfl, rfl, rfl⟩ := PatternMember.property.inj hmember
      exact named

theorem PatternMember.Becomes.exists_value {member : PatternMember}
    {property : DestructuredProperty} (h : member.Becomes property) {inner : ObjectPattern}
    (hinner : member.inner? = some inner) :
    ∃ nested, property.value = some nested ∧ inner.Becomes nested := by
  cases h with
  | @property origin key value computed name bound _ binds =>
      rw [inner?] at hinner
      generalize value.splitDefault.1 = left at binds hinner
      cases binds with
      | name id => cases hinner
      | object becomes =>
          cases hinner
          exact ⟨_, rfl, becomes⟩

namespace ObjectPattern

/-- A pattern has a key, itself or in a pattern inside it. -/
inductive HasKey : ObjectPattern → PropertyKey → Prop
  | own {pattern : ObjectPattern} {origin : Origin} {key : PropertyKey} {value : Pattern}
      {computed : Bool} (hmember : .property origin key value computed ∈ pattern.members) :
      HasKey pattern key
  | nested {pattern inner : ObjectPattern} {member : PatternMember} {key : PropertyKey}
      (hmember : member ∈ pattern.members) (hinner : member.inner? = some inner)
      (h : HasKey inner key) : HasKey pattern key

/-- A pattern is written with a type: its own, or without one that of a pattern inside it. -/
inductive HasType : ObjectPattern → FlowType → Prop
  | own {pattern : ObjectPattern} {type : FlowType} (htype : pattern.type = some type) :
      HasType pattern type
  | nested {pattern inner : ObjectPattern} {member : PatternMember} {type : FlowType}
      (huntyped : pattern.type = none) (hmember : member ∈ pattern.members)
      (hinner : member.inner? = some inner) (h : HasType inner type) : HasType pattern type

variable {pattern : ObjectPattern} {param : ObjectParameter}

theorem within_pattern_of_hasKey (hstep : ∀ c ∈ layout.step.toList, c = ' ')
    (h : pattern.Becomes param) {key : PropertyKey} (hkey : pattern.HasKey key) :
    ∃ name computed, destructuredKey? key computed = some name ∧
      Text.Within name (param.pattern layout) := by
  induction hkey generalizing param with
  | own hmember =>
      obtain ⟨property, hproperty, hbecomes⟩ := h.exists_property hmember
      refine ⟨property.key, _, hbecomes.destructuredKey?_eq, ?_⟩
      exact (DestructuredProperty.within_key property).trans
        (ObjectParameter.within_pattern hstep hproperty)
  | nested hmember hinner _ ih =>
      obtain ⟨property, hproperty, hbecomes⟩ := h.exists_property hmember
      obtain ⟨nested, hnested, hinnerBecomes⟩ := hbecomes.exists_value hinner
      obtain ⟨name, computed, hname, hwithin⟩ := ih hinnerBecomes
      refine ⟨name, computed, hname, hwithin.trans ?_⟩
      exact (DestructuredProperty.within_nested hnested).trans
        (ObjectParameter.within_pattern hstep hproperty)

theorem writtenIn_typeText_of_hasType (hstep : ∀ c ∈ layout.step.toList, c = ' ')
    (h : pattern.Becomes param) {type : FlowType} (htype : pattern.HasType type) :
    type.WrittenIn (param.typeText layout) := by
  induction htype generalizing param with
  | own htype =>
      cases h with
      | intro type_written _ =>
          obtain rfl := htype
          obtain ⟨text, htext, hpure⟩ := Written.bind_eq_ok_iff.mp type_written
          cases hpure
          rw [ObjectParameter.typeText_of_type rfl]
          exact FlowType.writtenIn_of_text htext
  | nested huntyped hmember hinner _ ih =>
      obtain ⟨property, hproperty, hbecomes⟩ := h.exists_property hmember
      obtain ⟨nested, hnested, hinnerBecomes⟩ := hbecomes.exists_value hinner
      have hparam : param.type = none := by
        cases h with
        | intro type_written _ =>
            obtain rfl := huntyped
            cases type_written
            rfl
      obtain ⟨inferred, hwithin⟩ := ObjectParameter.within_typeText hstep hparam hproperty
      refine (ih hinnerBecomes).mono (Text.Within.trans ?_ hwithin)
      exact DestructuredProperty.within_shapeType hnested inferred

end ObjectPattern

theorem Param.exists_mem_texts (layout : Layout) {params : List Param} {param : Param}
    (h : param ∈ params) :
    ∃ text ∈ Param.texts layout params, Text.Within (param.head layout) text ∧
      Text.Within (param.typeText layout) text := by
  obtain ⟨i, hi⟩ := List.getElem?_of_mem h
  refine ⟨_, List.mem_of_getElem? (getElem?_texts layout hi), ?_⟩
  rw [text_eq]
  exact ⟨(((Text.Within.refl _).append_right _).append_right _).append_right _,
    (Text.Within.refl _).append_left _⟩

theorem FlowType.exists_of_text? {type : FlowType} {text? : Option String}
    (h : FlowType.text? (some type) = .ok text?) : ∃ text, type.text = .ok text ∧
      text? = some text := by
  obtain ⟨text, htext, hpure⟩ := Written.bind_eq_ok_iff.mp h
  cases hpure
  exact ⟨text, htext, rfl⟩

namespace Pattern

/-- The object that a parameter is destructured into. -/
def object? (pattern : Pattern) : Option ObjectPattern :=
  match pattern.splitDefault.1 with
  | .object inner => some inner
  | _ => none

/-- A parameter is written with a key. -/
def HasKey (pattern : Pattern) (key : PropertyKey) : Prop :=
  ∃ inner, pattern.object? = some inner ∧ inner.HasKey key

/-- A parameter is written with a type: its own, or one inside it. -/
inductive HasType : Pattern → FlowType → Prop
  | own {pattern : Pattern} {type : FlowType} (htype : pattern.annotation = some type) :
      HasType pattern type
  | nested {pattern : Pattern} {inner : ObjectPattern} {type : FlowType}
      (hinner : pattern.object? = some inner) (h : inner.HasType type) : HasType pattern type

variable {pattern : Pattern} {param : Param}

theorem Becomes.exists_object (layout : Layout) (h : pattern.Becomes param) {inner : ObjectPattern}
    (hinner : pattern.object? = some inner) : ∃ object, inner.Becomes object ∧
      param.head layout = object.pattern layout ∧
      param.typeText layout = object.typeText layout := by
  cases h with
  | object becomes =>
      cases hinner
      exact ⟨_, becomes, rfl, rfl⟩
  | defaultObject becomes =>
      cases hinner
      refine ⟨_, becomes, ?_⟩
      cases becomes with
      | @intro _ _ _ properties text _ _ => cases properties <;> cases text <;> exact ⟨rfl, rfl⟩
  | _ => cases hinner

theorem Becomes.writtenIn_annotation (h : pattern.Becomes param) {type : FlowType}
    (htype : pattern.annotation = some type) : type.WrittenIn (param.typeText layout) := by
  have hnamed {type? : Option FlowType} {text? : Option String}
      (hwritten : FlowType.text? type? = .ok text?) (hsome : type? = some type) :
      type.WrittenIn (text?.getD anyText) := by
    rw [hsome] at hwritten
    obtain ⟨text, htext, rfl⟩ := FlowType.exists_of_text? hwritten
    exact FlowType.writtenIn_of_text htext
  cases h with
  | name type_written => exact hnamed type_written htype
  | defaultName type_written => exact hnamed type_written htype
  | rest type_written => exact hnamed type_written htype
  | object becomes =>
      cases becomes with
      | intro type_written _ =>
          obtain rfl := htype
          obtain ⟨text, htext, rfl⟩ := FlowType.exists_of_text? type_written
          exact FlowType.writtenIn_of_text htext
  | defaultObject becomes =>
      cases becomes with
      | intro type_written _ =>
          obtain rfl := htype
          obtain ⟨text, htext, rfl⟩ := FlowType.exists_of_text? type_written
          exact FlowType.writtenIn_of_text htext

theorem writtenIn_typeText_of_hasType (hstep : ∀ c ∈ layout.step.toList, c = ' ')
    (h : pattern.Becomes param) {type : FlowType} (htype : pattern.HasType type) :
    type.WrittenIn (param.typeText layout) := by
  cases htype with
  | own htype => exact h.writtenIn_annotation htype
  | nested hinner htype =>
      obtain ⟨object, hbecomes, -, htext⟩ := h.exists_object layout hinner
      rw [htext]
      exact ObjectPattern.writtenIn_typeText_of_hasType hstep hbecomes htype

theorem writtenAmong_texts (hstep : ∀ c ∈ layout.step.toList, c = ' ') {patterns : List Pattern}
    {params : List Param} (h : (Pattern.params patterns).result = .ok (some params))
    (hpattern : pattern ∈ patterns) {type : FlowType} (htype : pattern.HasType type) :
    type.WrittenAmong (Param.texts layout params) := by
  obtain ⟨param, hparam, hbecomes⟩ :=
    exists_of_mem_forall₂ (becomes_of_params h).flip hpattern
  obtain ⟨text, htext, -, hwithin⟩ := Param.exists_mem_texts layout hparam
  exact ⟨text, htext, (writtenIn_typeText_of_hasType hstep hbecomes htype).mono hwithin⟩

theorem exists_key_texts (hstep : ∀ c ∈ layout.step.toList, c = ' ') {patterns : List Pattern}
    {params : List Param} (h : (Pattern.params patterns).result = .ok (some params))
    (hpattern : pattern ∈ patterns) {key : PropertyKey} (hkey : pattern.HasKey key) :
    ∃ name computed, destructuredKey? key computed = some name ∧
      ∃ text ∈ Param.texts layout params, Text.Within name text := by
  obtain ⟨param, hparam, hbecomes⟩ :=
    exists_of_mem_forall₂ (becomes_of_params h).flip hpattern
  obtain ⟨inner, hinner, hkey⟩ := hkey
  obtain ⟨object, hobject, hhead, -⟩ := hbecomes.exists_object layout hinner
  obtain ⟨name, computed, hname, hwithin⟩ :=
    ObjectPattern.within_pattern_of_hasKey hstep hobject hkey
  obtain ⟨text, htext, hheadWithin, -⟩ := Param.exists_mem_texts layout hparam
  exact ⟨name, computed, hname, text, htext, hwithin.trans (hhead ▸ hheadWithin)⟩

end Pattern

section

variable {function : FunctionType} {name : Option String} {signature : Signature} {type : FlowType}

theorem FunctionType.exists_slot {param : FunctionParam}
    (h : param ∈ function.params ++ function.rest.toList) :
    ∃ slot ∈ function.slots, slot.param = param := by
  rcases List.mem_append.mp h with hparam | hrest
  · obtain ⟨i, hi⟩ := List.getElem?_of_mem hparam
    refine ⟨⟨param, i, false⟩, List.mem_append_left _ (List.mem_map.mpr ⟨(param, i), ?_, rfl⟩), rfl⟩
    exact List.mem_zipIdx_iff_getElem?.mpr hi
  · refine ⟨⟨param, function.params.length, true⟩, List.mem_append_right _ ?_, rfl⟩
    exact List.mem_map.mpr ⟨param, hrest, rfl⟩

/-- The types of a function type are written in its signature, also without its type
parameters. -/
theorem FunctionType.writtenAmong_of_mem_bareTypes (layout : Layout)
    (h : function.signature name = .ok signature) (htype : type ∈ function.bareTypes) :
    type.WrittenAmong (({ signature with typeParams := [] } : Signature).pieces layout) := by
  obtain ⟨-, -, hslots⟩ := FunctionType.becomes_of_signature h
  rcases List.mem_append.mp htype with hparam | hresult
  · obtain ⟨param, hparam, hannotated⟩ := List.mem_filterMap.mp hparam
    obtain ⟨slot, hslot, rfl⟩ := exists_slot hparam
    obtain ⟨found, hfound, hbecomes⟩ := exists_of_mem_forall₂ hslots.flip hslot
    obtain ⟨text, htext, -, hwithin⟩ := Param.exists_mem_texts layout hfound
    refine ⟨text, Signature.mem_pieces.mpr (.inr (.inr (.inl htext))), ?_⟩
    cases hbecomes with
    | named type_written =>
        rw [hannotated] at type_written
        obtain ⟨inner, hinner, rfl⟩ := FlowType.exists_of_text? type_written
        exact ⟨inner, hinner, hwithin⟩
  · obtain rfl := List.mem_singleton.mp hresult
    rw [signature_eq] at h
    obtain ⟨params, -, h⟩ := Written.bind_eq_ok_iff.mp h
    obtain ⟨result, hwritten, h⟩ := Written.bind_eq_ok_iff.mp h
    obtain ⟨typeParams, -, h⟩ := Written.bind_eq_ok_iff.mp h
    cases h
    exact ⟨result, Signature.mem_pieces.mpr (.inr (.inr (.inr rfl))),
      FlowType.writtenIn_of_text hwritten⟩

theorem FunctionType.writtenAmong_of_mem_types (h : function.signature name = .ok signature)
    (htype : type ∈ function.types) : type.WrittenAmong (signature.pieces layout) := by
  rcases List.mem_append.mp htype with htypeParam | hbare
  · rw [signature_eq] at h
    obtain ⟨params, -, h⟩ := Written.bind_eq_ok_iff.mp h
    obtain ⟨result, -, h⟩ := Written.bind_eq_ok_iff.mp h
    obtain ⟨typeParams, hwritten, h⟩ := Written.bind_eq_ok_iff.mp h
    cases h
    refine (TypeParam.writtenAmong_texts hwritten htypeParam).of_subset fun text htext => ?_
    exact Signature.mem_pieces.mpr (.inr (.inl htext))
  · refine (writtenAmong_of_mem_bareTypes layout h hbare).of_subset fun text htext => ?_
    rcases Signature.mem_pieces.mp htext with hname | hnone | hparam | hresult
    · exact Signature.mem_pieces.mpr (.inl hname)
    · cases hnone
    · exact Signature.mem_pieces.mpr (.inr (.inr (.inl hparam)))
    · exact Signature.mem_pieces.mpr (.inr (.inr (.inr hresult)))

end

end

end Ambient
