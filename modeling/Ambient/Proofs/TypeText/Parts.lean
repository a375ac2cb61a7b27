import Ambient.Proofs.Emission.Calls
import Ambient.Proofs.Text.Within
import Mathlib.Logic.Relation

namespace Ambient

/-!
# Types within types

The text of a type shows the texts of the types that it is made of, at every depth, and the
names of its members. Only the type parameters of a call signature are not written, so the
types in them are not among those that an object type is made of.
-/

/-- A type is written, and its text stands within another one. -/
def FlowType.WrittenIn (type : FlowType) (outer : String) : Prop :=
  ∃ text, type.text = .ok text ∧ Text.Within text outer

def FlowType.WrittenAmong (type : FlowType) (texts : List String) : Prop :=
  ∃ text ∈ texts, type.WrittenIn text

namespace FlowType

variable {type : FlowType} {middle outer : String} {texts : List String}

theorem WrittenIn.mono (h : type.WrittenIn middle) (hwithin : Text.Within middle outer) :
    type.WrittenIn outer := by
  obtain ⟨text, htext, hmiddle⟩ := h
  exact ⟨text, htext, hmiddle.trans hwithin⟩

theorem writtenIn_of_text (h : type.text = .ok outer) : type.WrittenIn outer :=
  ⟨outer, h, .refl outer⟩

theorem WrittenAmong.writtenIn (h : type.WrittenAmong texts)
    (hwithin : ∀ text ∈ texts, Text.Within text outer) : type.WrittenIn outer := by
  obtain ⟨text, htext, hwritten⟩ := h
  exact hwritten.mono (hwithin text htext)

theorem WrittenAmong.of_subset {others : List String} (h : type.WrittenAmong texts)
    (hsubset : texts ⊆ others) : type.WrittenAmong others := by
  obtain ⟨text, htext, hwritten⟩ := h
  exact ⟨text, hsubset htext, hwritten⟩

end FlowType

namespace Written

variable {α β : Type} {f : α → Written β} {l : List α} {bs : List β}

theorem exists_mem_of_each (h : each f l = .ok bs) {a : α} (ha : a ∈ l) :
    ∃ b ∈ bs, f a = .ok b :=
  exists_of_mem_forall₂ (each_eq_ok_iff.mp h).flip ha

end Written

theorem FlowType.texts_eq_each (types : List FlowType) :
    FlowType.texts types = Written.each FlowType.text types := by
  induction types with
  | nil => rfl
  | cons type rest ih =>
      rw [FlowType.texts, Written.each, ih]

theorem FlowType.operands_eq_each (context : Binding) (types : List FlowType) :
    FlowType.operands context types = Written.each (fun type => do
      return enclose type.binding? context (← type.text)) types := by
  induction types with
  | nil => rfl
  | cons type rest ih =>
      rw [FlowType.operands, Written.each, ih, bind_assoc]
      rfl

theorem TypeParam.texts_eq_each (params : List TypeParam) :
    TypeParam.texts params = Written.each TypeParam.text params := by
  induction params with
  | nil => rfl
  | cons param rest ih =>
      rw [TypeParam.texts, Written.each, ih]

theorem CallProperty.texts_eq_each (calls : List CallProperty) :
    CallProperty.texts calls = Written.each CallProperty.memberText calls := by
  induction calls with
  | nil => rfl
  | cons call rest ih =>
      rw [CallProperty.texts_cons, Written.each, ih]

/-- A property in the braces of an object type. -/
def ObjectMember.text : ObjectMember → Written String
  | .property member => do
    let name ← member.key.written
    let value ← member.value.text
    return name ++ optionalMark member.optional ++ ": " ++ value
  | .unsupported kind => .error ⟨kind⟩

theorem ObjectMember.texts_eq_each (members : List ObjectMember) :
    ObjectMember.texts members = Written.each ObjectMember.text members := by
  induction members with
  | nil => rfl
  | cons member rest ih =>
      match member with
      | .property ⟨_, _, _, _, _⟩ =>
          rw [ObjectMember.texts, Written.each, ih, ObjectMember.text]
          simp only [bind_assoc, pure_bind]
      | .unsupported kind => rfl

/-- An index signature in the braces of an object type. -/
def Indexer.text (indexer : Indexer) : Written String := do
  let key ← indexer.key.text
  let value ← indexer.value.text
  return "[" ++ indexName indexer.id ++ ": " ++ key ++ "]: " ++ value

theorem Indexer.texts_eq_each (indexers : List Indexer) :
    Indexer.texts indexers = Written.each Indexer.text indexers := by
  induction indexers with
  | nil => rfl
  | cons indexer rest ih =>
      obtain ⟨origin, id, key, value, isStatic⟩ := indexer
      rw [Indexer.texts, Written.each, ih, Indexer.text]
      simp only [bind_assoc, pure_bind]

def TypeParam.types (param : TypeParam) : List FlowType :=
  param.bound.toList ++ param.fallback.toList

/-- The types of the parameters and of the result of a function type. -/
def FunctionType.bareTypes (type : FunctionType) : List FlowType :=
  (type.params ++ type.rest.toList).filterMap (·.type) ++ [type.result]

def FunctionType.types (type : FunctionType) : List FlowType :=
  type.typeParams.flatMap TypeParam.types ++ type.bareTypes

def ObjectMember.types : ObjectMember → List FlowType
  | .property member => [member.value]
  | .unsupported _ => []

def Indexer.types (indexer : Indexer) : List FlowType := [indexer.key, indexer.value]

def ObjectType.types (type : ObjectType) : List FlowType :=
  type.properties.flatMap ObjectMember.types ++ type.indexers.flatMap Indexer.types ++
    type.calls.flatMap fun call => call.value.bareTypes

/-- The types that stand in a type, but for those that stand in one of these again. -/
def FlowType.types : FlowType → List FlowType
  | .generic _ arguments => arguments
  | .union types => types
  | .intersection types => types
  | .function type => type.types
  | .array element => [element]
  | .tuple elements => elements
  | .object type => type.types
  | .nullable inner => [inner]
  | _ => []

section

variable {type : FlowType} {texts : List String}

theorem FlowType.writtenAmong_texts {types : List FlowType}
    (h : FlowType.texts types = .ok texts) (htype : type ∈ types) : type.WrittenAmong texts := by
  rw [texts_eq_each] at h
  obtain ⟨text, hmem, htext⟩ := Written.exists_mem_of_each h htype
  exact ⟨text, hmem, writtenIn_of_text htext⟩

theorem FlowType.writtenAmong_operands {types : List FlowType} {context : Binding}
    (h : FlowType.operands context types = .ok texts) (htype : type ∈ types) :
    type.WrittenAmong texts := by
  rw [operands_eq_each] at h
  obtain ⟨operand, hmem, hoperand⟩ := Written.exists_mem_of_each h htype
  obtain ⟨text, htext, hpure⟩ := Written.bind_eq_ok_iff.mp hoperand
  cases hpure
  exact ⟨_, hmem, text, htext, within_enclose _ _ text⟩

theorem FlowType.writtenIn_textAfter {word text : String} {type? : Option FlowType}
    (h : FlowType.textAfter word type? = .ok text) (htype : type ∈ type?.toList) :
    type.WrittenIn text := by
  rw [Option.mem_toList] at htype
  subst htype
  obtain ⟨inner, hinner, hpure⟩ := Written.bind_eq_ok_iff.mp h
  cases hpure
  exact ⟨inner, hinner, (Text.Within.refl inner).append_left word⟩

theorem FlowType.writtenIn_textOrAny {text : String} {type? : Option FlowType}
    (h : FlowType.textOrAny type? = .ok text) (htype : type? = some type) :
    type.WrittenIn text := by
  subst htype
  exact writtenIn_of_text h

theorem TypeParam.writtenAmong_texts {params : List TypeParam}
    (h : TypeParam.texts params = .ok texts) (htype : type ∈ params.flatMap TypeParam.types) :
    type.WrittenAmong texts := by
  obtain ⟨param, hparam, htype⟩ := List.mem_flatMap.mp htype
  rw [texts_eq_each] at h
  obtain ⟨text, hmem, htext⟩ := Written.exists_mem_of_each h hparam
  refine ⟨text, hmem, ?_⟩
  obtain ⟨name, bound, fallback⟩ := param
  obtain ⟨boundText, hbound, htext⟩ := Written.bind_eq_ok_iff.mp htext
  obtain ⟨fallbackText, hfallback, htext⟩ := Written.bind_eq_ok_iff.mp htext
  cases htext
  rcases List.mem_append.mp htype with htype | htype
  · have hwritten := FlowType.writtenIn_textAfter hbound htype
    exact hwritten.mono (((Text.Within.refl _).append_left _).append_right _)
  · have hwritten := FlowType.writtenIn_textAfter hfallback htype
    exact hwritten.mono ((Text.Within.refl _).append_left _)

theorem FunctionParam.writtenAmong_texts {index : Nat} {params : List FunctionParam}
    (h : FunctionParam.texts index params = .ok texts)
    (htype : type ∈ params.filterMap (·.type)) : type.WrittenAmong texts := by
  induction params generalizing index texts with
  | nil => cases htype
  | cons param rest ih =>
      obtain ⟨text, htext, h⟩ := Written.bind_eq_ok_iff.mp h
      obtain ⟨others, hothers, h⟩ := Written.bind_eq_ok_iff.mp h
      cases h
      obtain ⟨found, hfound, hparam⟩ := List.mem_filterMap.mp htype
      rcases List.mem_cons.mp hfound with rfl | hrest
      · obtain ⟨name, type?, isOptional⟩ := found
        obtain ⟨inner, hinner, hpure⟩ := Written.bind_eq_ok_iff.mp htext
        cases hpure
        refine ⟨_, List.mem_cons_self, ?_⟩
        have hwritten := FlowType.writtenIn_textOrAny hinner hparam
        exact hwritten.mono ((Text.Within.refl inner).append_left _)
      · refine (ih hothers ?_).of_subset (List.subset_cons_self _ _)
        exact List.mem_filterMap.mpr ⟨found, hrest, hparam⟩

theorem FunctionParam.writtenAmong_restTexts {index : Nat} {rest : Option FunctionParam}
    (h : FunctionParam.restTexts index rest = .ok texts)
    (htype : type ∈ rest.toList.filterMap (·.type)) : type.WrittenAmong texts := by
  cases rest with
  | none => cases htype
  | some param =>
      obtain ⟨name, type?, isOptional⟩ := param
      obtain ⟨text, htext, hpure⟩ := Written.bind_eq_ok_iff.mp h
      cases hpure
      obtain ⟨inner, hinner, hpure⟩ := Written.bind_eq_ok_iff.mp htext
      cases hpure
      refine ⟨_, List.mem_cons_self, ?_⟩
      have hwritten := FlowType.writtenIn_textOrAny hinner (by simpa using htype)
      exact hwritten.mono ((Text.Within.refl inner).append_left _)

/-- The types of a function type are written among its parameters, or in its result. -/
theorem FunctionType.written_of_mem_bareTypes {function : FunctionType} {params : List String}
    {result : String} (hparams : function.paramTexts = .ok params)
    (hresult : function.result.text = .ok result) (htype : type ∈ function.bareTypes) :
    type.WrittenAmong params ∨ type.WrittenIn result := by
  obtain ⟨paramTexts, htexts, h⟩ := Written.bind_eq_ok_iff.mp hparams
  obtain ⟨restTexts, hrest, h⟩ := Written.bind_eq_ok_iff.mp h
  cases h
  rcases List.mem_append.mp htype with hparam | htype
  · rw [List.filterMap_append, List.mem_append] at hparam
    rcases hparam with hparam | hparam
    · have hwritten := FunctionParam.writtenAmong_texts htexts hparam
      exact .inl (hwritten.of_subset (List.subset_append_left _ _))
    · have hwritten := FunctionParam.writtenAmong_restTexts hrest hparam
      exact .inl (hwritten.of_subset (List.subset_append_right _ _))
  · rw [List.mem_singleton] at htype
    subst htype
    exact .inr (FlowType.writtenIn_of_text hresult)

theorem CallProperty.writtenIn_memberText {call : CallProperty} {text : String}
    (h : call.memberText = .ok text) (htype : type ∈ call.value.bareTypes) :
    type.WrittenIn text := by
  obtain ⟨params, result, hparams, hresult, rfl⟩ := memberText_eq_ok_iff.mp h
  rcases FunctionType.written_of_mem_bareTypes hparams hresult htype with hwritten | hwritten
  · refine hwritten.writtenIn fun text htext => ?_
    exact (((within_commaList htext).append_left _).append_right _).append_right _
  · exact hwritten.mono ((Text.Within.refl result).append_left _)

theorem FunctionType.writtenIn_text {function : FunctionType} {text : String}
    (h : (FlowType.function function).text = .ok text) (htype : type ∈ function.types) :
    type.WrittenIn text := by
  obtain ⟨typeParams, params, result, hwrites, rfl⟩ := FunctionType.text_eq_ok_iff.mp h
  refine FlowType.WrittenIn.mono ?_ (((Text.Within.refl _).append_left _).append_right _)
  rcases List.mem_append.mp htype with htype | htype
  · refine (TypeParam.writtenAmong_texts hwrites.typeParams htype).writtenIn fun text htext => ?_
    exact ((((within_generics htext).append_right _).append_right _).append_right _).append_right _
  · rcases FunctionType.written_of_mem_bareTypes hwrites.params hwrites.result htype with h | h
    · refine h.writtenIn fun text htext => ?_
      exact (((within_commaList htext).append_left _).append_right _).append_right _
    · exact h.mono ((Text.Within.refl result).append_left _)

theorem ObjectMember.exists_text {property : ObjectProperty} {text : String}
    (h : (ObjectMember.property property).text = .ok text) :
    ∃ name value, property.key.written = .ok name ∧ property.value.text = .ok value ∧
      text = name ++ optionalMark property.optional ++ ": " ++ value := by
  obtain ⟨name, hname, h⟩ := Written.bind_eq_ok_iff.mp h
  obtain ⟨value, hvalue, h⟩ := Written.bind_eq_ok_iff.mp h
  cases h
  exact ⟨name, value, hname, hvalue, rfl⟩

theorem ObjectMember.writtenIn_text {member : ObjectMember} {text : String}
    (h : member.text = .ok text) (htype : type ∈ member.types) : type.WrittenIn text := by
  cases member with
  | property property =>
      obtain ⟨name, value, -, hvalue, rfl⟩ := exists_text h
      obtain rfl := List.mem_singleton.mp htype
      exact ⟨value, hvalue, (Text.Within.refl value).append_left _⟩
  | unsupported kind => cases h

theorem Indexer.writtenIn_text {indexer : Indexer} {text : String}
    (h : indexer.text = .ok text) (htype : type ∈ indexer.types) : type.WrittenIn text := by
  obtain ⟨key, hkey, h⟩ := Written.bind_eq_ok_iff.mp h
  obtain ⟨value, hvalue, h⟩ := Written.bind_eq_ok_iff.mp h
  cases h
  rcases List.mem_pair.mp htype with rfl | rfl
  · exact ⟨key, hkey, (((Text.Within.refl key).append_left _).append_right _).append_right _⟩
  · exact ⟨value, hvalue, (Text.Within.refl value).append_left _⟩

end

theorem ObjectType.exists_texts {object : ObjectType} {text : String}
    (h : object.text = .ok text) : ∃ properties indexers calls,
      Written.each ObjectMember.text object.properties = .ok properties ∧
      Written.each Indexer.text object.indexers = .ok indexers ∧
      Written.each CallProperty.memberText object.calls = .ok calls ∧
      text = braced (properties ++ indexers ++ calls) := by
  obtain ⟨properties, indexers, calls⟩ := object
  obtain ⟨propertyTexts, hproperties, h⟩ := Written.bind_eq_ok_iff.mp h
  obtain ⟨indexerTexts, hindexers, h⟩ := Written.bind_eq_ok_iff.mp h
  obtain ⟨callTexts, hcalls, h⟩ := Written.bind_eq_ok_iff.mp h
  cases h
  rw [ObjectMember.texts_eq_each] at hproperties
  rw [Indexer.texts_eq_each] at hindexers
  rw [CallProperty.texts_eq_each] at hcalls
  exact ⟨propertyTexts, indexerTexts, callTexts, hproperties, hindexers, hcalls, rfl⟩

theorem ObjectType.writtenIn_text {object : ObjectType} {type : FlowType} {text : String}
    (h : object.text = .ok text) (htype : type ∈ object.types) : type.WrittenIn text := by
  obtain ⟨properties, indexers, calls, hproperties, hindexers, hcalls, rfl⟩ := exists_texts h
  have hamong : type.WrittenAmong (properties ++ indexers ++ calls) := by
    rcases List.mem_append.mp htype with htype | htype
    · rcases List.mem_append.mp htype with htype | htype
      · obtain ⟨member, hmember, htype⟩ := List.mem_flatMap.mp htype
        obtain ⟨found, hfound, htext⟩ := Written.exists_mem_of_each hproperties hmember
        exact ⟨found, by simp [hfound], member.writtenIn_text htext htype⟩
      · obtain ⟨indexer, hindexer, htype⟩ := List.mem_flatMap.mp htype
        obtain ⟨found, hfound, htext⟩ := Written.exists_mem_of_each hindexers hindexer
        exact ⟨found, by simp [hfound], indexer.writtenIn_text htext htype⟩
    · obtain ⟨call, hcall, htype⟩ := List.mem_flatMap.mp htype
      obtain ⟨found, hfound, htext⟩ := Written.exists_mem_of_each hcalls hcall
      exact ⟨found, by simp [hfound], call.writtenIn_memberText htext htype⟩
  exact hamong.writtenIn fun _ => within_braced

namespace FlowType

variable {whole part : FlowType} {text : String}

theorem writtenIn_of_mem_types (h : whole.text = .ok text) (hpart : part ∈ whole.types) :
    part.WrittenIn text := by
  cases whole with
  | generic name arguments =>
      obtain ⟨nameText, -, h⟩ := Written.bind_eq_ok_iff.mp h
      obtain ⟨texts, htexts, h⟩ := Written.bind_eq_ok_iff.mp h
      cases h
      refine (writtenAmong_texts htexts hpart).writtenIn fun text htext => ?_
      exact (within_generics htext).append_left nameText
  | union types =>
      obtain ⟨texts, htexts, h⟩ := Written.bind_eq_ok_iff.mp h
      cases h
      exact (writtenAmong_operands htexts hpart).writtenIn fun _ => .intercalate _
  | intersection types =>
      obtain ⟨texts, htexts, h⟩ := Written.bind_eq_ok_iff.mp h
      cases h
      exact (writtenAmong_operands htexts hpart).writtenIn fun _ => .intercalate _
  | function type => exact FunctionType.writtenIn_text h hpart
  | array element =>
      obtain ⟨inner, hinner, h⟩ := Written.bind_eq_ok_iff.mp h
      cases h
      obtain rfl := List.mem_singleton.mp hpart
      exact ⟨inner, hinner, (within_enclose _ _ inner).append_right _⟩
  | tuple elements =>
      obtain ⟨texts, htexts, h⟩ := Written.bind_eq_ok_iff.mp h
      cases h
      refine (writtenAmong_texts htexts hpart).writtenIn fun text htext => ?_
      exact ((within_commaList htext).append_left _).append_right _
  | object type => exact ObjectType.writtenIn_text h hpart
  | nullable inner =>
      obtain ⟨innerText, hinner, h⟩ := Written.bind_eq_ok_iff.mp h
      cases h
      obtain rfl := List.mem_singleton.mp hpart
      exact ⟨innerText, hinner, (within_enclose _ _ innerText).append_right _⟩
  | _ => cases hpart

/-- A type is another one, or a part of it at some depth. -/
def Contains : FlowType → FlowType → Prop :=
  Relation.ReflTransGen fun whole part => part ∈ whole.types

/-- A type is written within the text of any type that contains it. -/
theorem writtenIn_of_contains (h : whole.text = .ok text) (hcontains : whole.Contains part) :
    part.WrittenIn text := by
  -- The induction follows the parts from the whole inwards.
  induction hcontains with
  | refl => exact writtenIn_of_text h
  | tail _ hpart ih =>
      obtain ⟨middle, hmiddle, hwithin⟩ := ih
      exact (writtenIn_of_mem_types hmiddle hpart).mono hwithin

end FlowType

end Ambient
