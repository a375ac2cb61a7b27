import Ambient.Declaration.Layout
import Ambient.Proofs.Emission.Result
import Ambient.Proofs.Layout.Inline

namespace Ambient

open Text

/-!
# The layout of parameters

Parameters of plain patterns. A destructured parameter stands on several lines, its
properties one step further in than its braces, and so does the type that it has by its
shape.
-/

namespace Traced

variable {α β : Type} {P : α → Prop} {Q : β → Prop}

theorem ensures_bind {x : Traced α} {f : α → Traced β} (hx : x.result.Ensures P)
    (hf : ∀ a, P a → (f a).result.Ensures Q) : (x >>= f).result.Ensures Q := by
  rw [bind_result]
  exact hx.bind hf

end Traced

mutual

/-- The keys of a destructured parameter lead, and its types stand on one line. -/
def ObjectParameter.IsTidy : ObjectParameter → Prop
  | ⟨properties, type, _⟩ =>
    DestructuredProperty.AreTidy properties ∧ ∀ text ∈ type, IsInline text

def DestructuredProperty.AreTidy : List DestructuredProperty → Prop
  | [] => True
  | property :: rest => property.IsTidy ∧ DestructuredProperty.AreTidy rest

def DestructuredProperty.IsTidy : DestructuredProperty → Prop
  | ⟨key, none, _⟩ => IsWord key
  | ⟨key, some nested, _⟩ => IsWord key ∧ nested.IsTidy

end

theorem DestructuredProperty.isTidy_mk {key : String} {value : Option ObjectParameter}
    {isOptional : Bool} (hkey : IsWord key) (hvalue : ∀ nested ∈ value, nested.IsTidy) :
    (DestructuredProperty.mk key value isOptional).IsTidy := by
  cases value with
  | none => exact hkey
  | some nested => exact ⟨hkey, hvalue nested rfl⟩

theorem isWord_of_destructuredKey? {key : PropertyKey} {computed : Bool} {name : String}
    (hplain : key.isPlain = true) (h : destructuredKey? key computed = some name) :
    IsWord name := by
  cases key with
  | identifier id =>
      cases computed with
      | true => cases h
      | false =>
          cases h
          exact isWord_of_isPlainName hplain
  | string literal =>
      cases computed with
      | true => cases h
      | false =>
          cases h
          exact StringLiteral.isWord_text hplain
  | unsupported kind => cases h

theorem FlowType.text?_inline (type : Option FlowType) (h : FlowType.isPlain? type = true) :
    (FlowType.text? type).Ensures fun found => ∀ text ∈ found, IsInline text := by
  cases type with
  | none => exact Written.ensures_ok nofun
  | some type =>
      refine (type.text_inline h).bind fun text htext => Written.ensures_pure ?_
      rintro _ ⟨⟩
      exact htext

theorem DestructuredProperty.ensures_cons {key : PropertyKey} {computed isOptional : Bool}
    (hkey : key.isPlain = true) {nested : String → Traced (Option (Option ObjectParameter))}
    (hnested : ∀ name, (nested name).result.Ensures fun found =>
      ∀ value ∈ found, ∀ param ∈ value, param.IsTidy)
    {others : Traced (Option (List DestructuredProperty))}
    (hothers : others.result.Ensures fun found =>
      ∀ properties ∈ found, DestructuredProperty.AreTidy properties) :
    (show Traced (Option (List DestructuredProperty)) from
      match destructuredKey? key computed with
      | none => Traced.leaveOut .destructuredKeyUnsupported
      | some name => do
        match ← nested name with
        | none => return none
        | some value => return (← others).map (⟨name, value, isOptional⟩ :: ·)).result.Ensures
      fun found => ∀ properties ∈ found, DestructuredProperty.AreTidy properties := by
  cases hname : destructuredKey? key computed with
  | none => exact Written.ensures_ok nofun
  | some name =>
      have hword := isWord_of_destructuredKey? hkey hname
      refine Traced.ensures_bind (hnested name) fun found hfound => ?_
      cases found with
      | none => exact Written.ensures_ok nofun
      | some value =>
          refine Traced.ensures_bind hothers fun rest hrest => Written.ensures_ok ?_
          cases rest with
          | none => exact nofun
          | some properties =>
              rintro _ ⟨⟩
              exact ⟨isTidy_mk hword (hfound value rfl), hrest properties rfl⟩

mutual

theorem ObjectPattern.param_tidy : ∀ pattern : ObjectPattern, pattern.isPlain = true →
    pattern.param.result.Ensures fun found => ∀ param ∈ found, param.IsTidy
  | ⟨_, members, type⟩ => by
      intro h
      rw [ObjectPattern.isPlain, Bool.and_eq_true] at h
      refine Traced.ensures_bind (FlowType.text?_inline type h.2) fun text htext => ?_
      refine Traced.ensures_bind (PatternMember.properties_tidy members h.1)
        fun found hfound => ?_
      cases found with
      | none => exact Written.ensures_ok nofun
      | some properties =>
          refine Written.ensures_ok ?_
          rintro _ ⟨⟩
          exact ⟨hfound properties rfl, htext⟩

theorem PatternMember.properties_tidy :
    ∀ members : List PatternMember, PatternMember.arePlain members = true →
      (PatternMember.properties members).result.Ensures fun found =>
        ∀ properties ∈ found, DestructuredProperty.AreTidy properties
  | [] => fun _ => Written.ensures_ok (by rintro _ ⟨⟩; trivial)
  | .property _ key value computed :: rest => by
      intro h
      simp only [PatternMember.arePlain, Bool.and_eq_true] at h
      obtain ⟨⟨hkey, hvalue⟩, hrest⟩ := h
      have hothers := PatternMember.properties_tidy rest hrest
      -- A default is looked through, so what stands before it is the nested pattern.
      cases value with
      | assignment _ left =>
          exact DestructuredProperty.ensures_cons hkey
            (fun name => left.nestedParam_tidy name hvalue) hothers
      | identifier id =>
          exact DestructuredProperty.ensures_cons hkey
            (fun name => (Pattern.identifier id).nestedParam_tidy name hvalue) hothers
      | object pattern =>
          exact DestructuredProperty.ensures_cons hkey
            (fun name => (Pattern.object pattern).nestedParam_tidy name hvalue) hothers
      | rest element =>
          exact DestructuredProperty.ensures_cons hkey
            (fun name => (Pattern.rest element).nestedParam_tidy name hvalue) hothers
      | unsupported kind =>
          exact DestructuredProperty.ensures_cons hkey
            (fun name => (Pattern.unsupported kind).nestedParam_tidy name hvalue) hothers
  | .rest _ :: _ => fun _ => Written.ensures_ok nofun
  | .unsupported _ :: _ => fun _ => Written.ensures_ok nofun

theorem Pattern.nestedParam_tidy (key : String) : ∀ pattern : Pattern, pattern.isPlain = true →
    (pattern.nestedParam key).result.Ensures fun found =>
      ∀ value ∈ found, ∀ nested ∈ value, nested.IsTidy
  | .identifier _ => fun _ => Written.ensures_ok (by rintro _ ⟨⟩ _ ⟨⟩)
  | .object pattern => by
      intro h
      refine Traced.ensures_bind (pattern.param_tidy h) fun found hfound => ?_
      cases found with
      | none => exact Written.ensures_ok nofun
      | some nested =>
          refine Written.ensures_ok ?_
          rintro _ ⟨⟩
          exact hfound
  | .assignment _ _ => fun _ => Written.ensures_ok nofun
  | .rest _ => fun _ => Written.ensures_ok nofun
  | .unsupported _ => fun _ => Written.ensures_ok nofun

end

def Param.IsTidy : Param → Prop
  | .named param => IsInline param.name ∧ ∀ text ∈ param.type, IsInline text
  | .object param => param.IsTidy

theorem isInline_name_of_isPlain {id : Identifier} (h : id.isPlain = true) :
    IsInline id.name := by
  rw [Identifier.isPlain, Bool.and_eq_true] at h
  exact isInline_of_isPlainName h.1

theorem isPlain?_type {id : Identifier} (h : id.isPlain = true) :
    FlowType.isPlain? id.type = true := by
  rw [Identifier.isPlain, Bool.and_eq_true] at h
  exact h.2

theorem Param.ensures_named {name : String} (hname : IsInline name) {type : Option FlowType}
    (htype : FlowType.isPlain? type = true) (isRest isOptional : Bool) :
    (show Traced (Option Param) from do
      let type ← FlowType.text? type
      return some (.named ⟨name, type, isRest, isOptional⟩)).result.Ensures
        fun found => ∀ param ∈ found, param.IsTidy := by
  refine Traced.ensures_bind (FlowType.text?_inline type htype) fun text htext =>
    Written.ensures_ok ?_
  rintro _ ⟨⟩
  exact ⟨hname, htext⟩

theorem ObjectParameter.isTidy_optional {param : ObjectParameter} (h : param.IsTidy)
    (isOptional : Bool) : ({ param with isOptional } : ObjectParameter).IsTidy := by
  obtain ⟨properties, type, wasOptional⟩ := param
  exact h

theorem Pattern.param_tidy (pattern : Pattern) (h : pattern.isPlain = true) :
    pattern.param.result.Ensures fun found => ∀ param ∈ found, param.IsTidy := by
  cases pattern with
  | identifier id =>
      exact Param.ensures_named (isInline_name_of_isPlain h) (isPlain?_type h) false id.optional
  | assignment origin left =>
      cases left with
      | identifier id =>
          exact Param.ensures_named (isInline_name_of_isPlain h) (isPlain?_type h) false true
      | object pattern =>
          refine Traced.ensures_bind (pattern.param_tidy h) fun found hfound =>
            Written.ensures_ok ?_
          cases found with
          | none => exact nofun
          | some param =>
              rintro _ ⟨⟩
              exact ObjectParameter.isTidy_optional (hfound param rfl) true
      | assignment origin left => exact Written.ensures_ok nofun
      | rest element => exact Written.ensures_ok nofun
      | unsupported kind => exact Written.ensures_ok nofun
  | rest element =>
      obtain ⟨origin, argument, type⟩ := element
      simp only [Pattern.isPlain, RestElement.isPlain, Bool.and_eq_true] at h
      cases argument with
      | identifier id =>
          have htype : FlowType.isPlain? (type.or id.type) = true := by
            cases type with
            | none => exact isPlain?_type h.1
            | some type => exact h.2
          exact Param.ensures_named (isInline_name_of_isPlain h.1) htype true false
      | object pattern => exact Written.ensures_ok nofun
      | assignment origin left => exact Written.ensures_ok nofun
      | rest element => exact Written.ensures_ok nofun
      | unsupported kind => exact Written.ensures_ok nofun
  | object pattern =>
      refine Traced.ensures_bind (pattern.param_tidy h) fun found hfound =>
        Written.ensures_ok ?_
      cases found with
      | none => exact nofun
      | some param =>
          rintro _ ⟨⟩
          exact hfound param rfl
  | unsupported kind => exact Written.ensures_ok nofun

/-- What a signature is made of stands on lines of its own or leads one. -/
structure Signature.IsTidy (signature : Signature) : Prop where
  name : ∀ name ∈ signature.name, IsWord name
  params : ∀ param ∈ signature.params, param.IsTidy
  result : ∀ text ∈ signature.result, IsInline text
  typeParams : AllInline signature.typeParams

theorem isWord_optionalMark (isOptional : Bool) : IsWord (optionalMark isOptional) := by
  cases isOptional <;> decide

theorem stands_colon : Stands ": " := (show IsWord ": " by decide).stands (by decide)

theorem isInline_anyText : IsInline anyText := by decide

theorem isInline_semicolon : IsInline ";" := by decide

/-- A name with what is written behind a colon. -/
theorem stands_typed {name type : String} (hname : IsWord name) (htype : IsLaid 0 type) :
    Stands (name ++ ": " ++ type ++ ";") :=
  ((hname.stands_append stands_colon).append htype).append isInline_semicolon.isLaid

section

variable {layout : Layout}

mutual

theorem ObjectParameter.pattern_laid (hstep : layout.step = "  ") :
    ∀ param : ObjectParameter, param.IsTidy → IsLaid 0 (param.pattern layout)
  | ⟨[], _, _⟩ => fun _ => (show IsInline "\x7b\x7d" by decide).isLaid
  | ⟨first :: rest, _, _⟩ => by
      intro h
      obtain ⟨texts, htexts, hne, hlaid⟩ :=
        DestructuredProperty.patterns_laid hstep (first :: rest) h.1
      rw [ObjectParameter.pattern, htexts, hstep]
      exact IsLaid.braces (.inr rfl) (hne (List.cons_ne_nil _ _)) hlaid

theorem DestructuredProperty.patterns_laid (hstep : layout.step = "  ") :
    ∀ properties : List DestructuredProperty, DestructuredProperty.AreTidy properties →
      ∃ texts : List String,
        DestructuredProperty.patterns layout properties = texts.map (Text.indent layout.step) ∧
        (properties ≠ [] → texts ≠ []) ∧ ∀ text ∈ texts, IsLaid 0 text ∧ Leads text
  | [] => fun _ => ⟨[], rfl, fun h => absurd rfl h, nofun⟩
  | property :: rest => by
      intro h
      obtain ⟨texts, htexts, -, hlaid⟩ := DestructuredProperty.patterns_laid hstep rest h.2
      refine ⟨property.pattern layout :: texts, ?_, fun _ => List.cons_ne_nil _ _, ?_⟩
      · rw [DestructuredProperty.patterns, htexts, List.map_cons]
      · exact List.forall_mem_cons.mpr ⟨property.pattern_laid hstep h.1, hlaid⟩

theorem DestructuredProperty.pattern_laid (hstep : layout.step = "  ") :
    ∀ property : DestructuredProperty, property.IsTidy →
      IsLaid 0 (property.pattern layout) ∧ Leads (property.pattern layout)
  | ⟨_, none, _⟩ => fun h => ⟨h.isInline.isLaid, h.leads⟩
  | ⟨key, some nested, _⟩ => by
      intro h
      have hpattern := (h.1.stands_append stands_colon).append (nested.pattern_laid hstep h.2)
      rw [DestructuredProperty.pattern]
      exact ⟨hpattern.laid, hpattern.heads.leads⟩

end

mutual

theorem DestructuredProperty.shapeTypes_laid (hstep : layout.step = "  ") :
    ∀ properties : List DestructuredProperty, DestructuredProperty.AreTidy properties →
      ∃ texts : List String,
        DestructuredProperty.shapeTypes layout properties = texts.map (Text.indent layout.step) ∧
        (properties ≠ [] → texts ≠ []) ∧ ∀ text ∈ texts, IsLaid 0 text ∧ Leads text
  | [] => fun _ => ⟨[], rfl, fun h => absurd rfl h, nofun⟩
  | property :: rest => by
      intro h
      obtain ⟨texts, htexts, -, hlaid⟩ := DestructuredProperty.shapeTypes_laid hstep rest h.2
      refine ⟨property.shapeType layout
        (layout.markUnspecified && !(property :: rest).any (·.isNested)) :: texts, ?_,
        fun _ => List.cons_ne_nil _ _, ?_⟩
      · rw [DestructuredProperty.shapeTypes, htexts, List.map_cons]
      · have hproperty := property.shapeType_laid hstep
          (layout.markUnspecified && !(property :: rest).any (·.isNested)) h.1
        exact List.forall_mem_cons.mpr ⟨⟨hproperty.laid, hproperty.heads.leads⟩, hlaid⟩

theorem DestructuredProperty.shapeType_laid (hstep : layout.step = "  ") (inferred : Bool) :
    ∀ property : DestructuredProperty, property.IsTidy →
      Stands (property.shapeType layout inferred)
  | ⟨key, none, isOptional⟩ => by
      intro h
      have hmarked := h.append (isWord_optionalMark (isOptional || inferred))
      rw [DestructuredProperty.shapeType]
      exact stands_typed hmarked isInline_anyText.isLaid
  | ⟨key, some nested, isOptional⟩ => by
      intro h
      have hmarked := h.1.append (isWord_optionalMark (isOptional || inferred))
      rw [DestructuredProperty.shapeType]
      exact stands_typed hmarked (nested.typeText_laid hstep h.2)

theorem ObjectParameter.typeText_laid (hstep : layout.step = "  ") :
    ∀ param : ObjectParameter, param.IsTidy → IsLaid 0 (param.typeText layout)
  | ⟨_, some type, _⟩ => fun h => (h.2 type rfl).isLaid
  | ⟨[], none, _⟩ => fun _ => (show IsInline "\x7b\x7d" by decide).isLaid
  | ⟨first :: rest, none, _⟩ => by
      intro h
      obtain ⟨texts, htexts, hne, hlaid⟩ :=
        DestructuredProperty.shapeTypes_laid hstep (first :: rest) h.1
      rw [ObjectParameter.typeText, htexts, hstep]
      exact IsLaid.braces (.inl rfl) (hne (List.cons_ne_nil _ _)) hlaid

end

theorem isInline_getD_anyText {type : Option String} (h : ∀ text ∈ type, IsInline text) :
    IsInline (type.getD anyText) := by
  cases type with
  | none => exact isInline_anyText
  | some text => exact h text rfl

theorem Parameter.text_inline {param : Parameter} (hname : IsInline param.name)
    (htype : ∀ text ∈ param.type, IsInline text) (trailing : Bool) :
    IsInline (param.text trailing) := by
  have hrest : IsInline (if param.isRest then "..." else "") := by
    cases param.isRest <;> decide
  have hmarked := (hrest.append hname).append (isInline_optionalMark (param.isOptional ||
    (trailing && param.type.isNone && !param.isRest)))
  exact (hmarked.append (b := ": ") (by decide)).append (isInline_getD_anyText htype)

end

end Ambient
