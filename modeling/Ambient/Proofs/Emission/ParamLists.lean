import Ambient.Proofs.Emission.Parameters
import Ambient.Proofs.Emission.Signatures
import Ambient.Proofs.Layout.Optional
import Mathlib.Data.List.Nodup

namespace Ambient

/-!
# Legal parameter lists

A list of parameters is not legal if a parameter that must be given stands behind one that need
not be, or if two parameters have one name. Neither comes of itself. The order is that of the
source, in which a default value makes a parameter optional wherever it stands, and inferred marks
only repair it. An invented name goes by the place of its parameter, so it can only be met again
as a name that the source gives.
-/

namespace Pattern

/-- Whether the source makes a parameter optional, by a question mark or by a default value. -/
def isOptional : Pattern → Bool
  | .identifier id => id.optional
  | .assignment _ _ => true
  | _ => false

def isRest : Pattern → Bool
  | .rest _ => true
  | _ => false

def annotation : Pattern → Option FlowType
  | .identifier id => id.type
  | .assignment _ (.identifier id) => id.type
  | .assignment _ (.object pattern) => pattern.type
  | .rest ⟨_, .identifier id, type⟩ => type.or id.type
  | .object pattern => pattern.type
  | _ => none

end Pattern

theorem FlowType.isSome_of_text? {type : Option FlowType} {text : Option String}
    (h : FlowType.text? type = .ok text) : text.isSome = type.isSome := by
  cases type with
  | none =>
      cases h
      rfl
  | some type =>
      obtain ⟨written, -, h⟩ := Written.bind_eq_ok_iff.mp h
      cases h
      rfl

namespace Pattern.Becomes

variable {pattern : Pattern} {param : Param}

theorem isOptional_eq (h : pattern.Becomes param) : param.isOptional = pattern.isOptional := by
  cases h with
  | object becomes =>
      cases becomes
      rfl
  | _ => rfl

theorem isRest_eq (h : pattern.Becomes param) : param.isRest = pattern.isRest := by
  cases h <;> rfl

theorem isTyped_eq (h : pattern.Becomes param) : param.isTyped = pattern.annotation.isSome := by
  cases h with
  | name type_written => exact FlowType.isSome_of_text? type_written
  | defaultName type_written => exact FlowType.isSome_of_text? type_written
  | object becomes =>
      cases becomes with
      | intro type_written _ => exact FlowType.isSome_of_text? type_written
  | defaultObject becomes =>
      cases becomes with
      | intro type_written _ => exact FlowType.isSome_of_text? type_written
  | rest type_written => exact FlowType.isSome_of_text? type_written

end Pattern.Becomes

/-- Whether a pattern is written with a mark, `after` being the list from it on. -/
def Pattern.Marks (layout : Layout) (pattern : Pattern) (after : List Pattern) : Prop :=
  pattern.isOptional = true ∨ layout.markUnspecified = true ∧ pattern.annotation = none ∧
    pattern.isRest = false ∧ ∀ other ∈ after, other.annotation = none

theorem Pattern.Becomes.marks_iff {layout : Layout} {pattern : Pattern} {param : Param}
    (h : pattern.Becomes param) {after : List Pattern} {others : List Param}
    (hafter : List.Forall₂ Pattern.Becomes after others) :
    param.Marks layout others ↔ pattern.Marks layout after := by
  have huntyped : (∀ other ∈ others, other.isTyped = false) ↔
      ∀ other ∈ after, other.annotation = none := by
    induction hafter with
    | nil => simp
    | cons hfirst _ ih => simp [ih, hfirst.isTyped_eq]
  rw [Param.Marks, Pattern.Marks, h.isOptional_eq, h.isTyped_eq, h.isRest_eq, huntyped]
  simp

/-- What a list of patterns becomes is written with a mark where its pattern is to have one. -/
theorem Pattern.writtenOptional_iff (layout : Layout) {patterns : List Pattern}
    {params : List Param} (h : List.Forall₂ Pattern.Becomes patterns params) {i : Nat}
    {pattern : Pattern} (hi : patterns[i]? = some pattern) :
    Param.WrittenOptional layout params i ↔ pattern.Marks layout (patterns.drop i) := by
  obtain ⟨param, hparam, hbecomes⟩ := exists_getElem?_of_forall₂ h hi
  rw [Param.writtenOptional_iff layout hparam, hbecomes.marks_iff (List.forall₂_drop i h)]

/-- A list of parameters is legal exactly if each parameter that stands behind one that the source
makes optional is optional too: by the source, as the rest, or as one of the untyped parameters at
the end where these are inferred to be. -/
theorem Layout.isLegal_params_iff (layout : Layout) {patterns : List Pattern} {params : List Param}
    (h : (Pattern.params patterns).result = .ok (some params)) :
    Param.IsLegal layout params ↔
      ∀ (i j : Nat) (first later : Pattern), i < j → patterns[i]? = some first →
        patterns[j]? = some later → first.isOptional = true → later.isRest = false →
          later.isOptional = true ∨
            layout.markUnspecified = true ∧ ∀ other ∈ patterns.drop j, other.annotation = none := by
  have hbecomes := Pattern.becomes_of_params h
  constructor
  · intro hlegal i j first later hij hi hj hoptional hrest
    obtain ⟨other, hother, hlater⟩ := exists_getElem?_of_forall₂ hbecomes hj
    have hfirst := (Pattern.writtenOptional_iff layout hbecomes hi).mpr (.inl hoptional)
    have hwritten := hlegal i j hij hfirst other hother (hlater.isRest_eq.trans hrest)
    rcases (Pattern.writtenOptional_iff layout hbecomes hj).mp hwritten with h | ⟨hon, -, -, htail⟩
    · exact .inl h
    · exact .inr ⟨hon, htail⟩
  · intro horder i j hij hi other hother hrest
    obtain ⟨param, hparam, -⟩ := id hi
    obtain ⟨first, hfirst, hparamOf⟩ := exists_getElem?_of_forall₂ hbecomes.flip hparam
    obtain ⟨later, hlater, hotherOf⟩ := exists_getElem?_of_forall₂ hbecomes.flip hother
    cases hoptional : param.isOptional with
    | false =>
        -- The mark is inferred, so all that follows is untyped.
        have hmarks := (Param.writtenOptional_iff layout hparam).mp hi
        exact (Param.writtenOptional_iff layout hother).mpr
          (hmarks.of_later hij hother hrest hoptional)
    | true =>
        have hlaterRest := hotherOf.isRest_eq.symm.trans hrest
        have hmem : later ∈ patterns.drop j := by
          apply List.mem_of_getElem? (i := 0)
          rw [List.getElem?_drop]
          exact hlater
        refine (Pattern.writtenOptional_iff layout hbecomes hlater).mpr ?_
        rcases horder i j first later hij hfirst hlater
          (hparamOf.isOptional_eq.symm.trans hoptional) hlaterRest with h | ⟨hon, htail⟩
        · exact .inl h
        · exact .inr ⟨hon, htail later hmem, hlaterRest, htail⟩

/-- `a = 1, b`, where `b` may have a type. -/
def defaultBefore (type : Option FlowType) : List Pattern :=
  [.assignment {} (.identifier ⟨{}, "a", none, false⟩), .identifier ⟨{}, "b", type, false⟩]

/-- Without a type for `b` the list is legal with inferred marks, and only so. -/
theorem Layout.isLegal_params_iff_defaultBefore : ∃ params,
    (Pattern.params (defaultBefore none)).result = .ok (some params) ∧
      Param.IsLegal (Layout.marking {} true) params ∧
      ¬ Param.IsLegal (Layout.marking {} false) params := by
  have hparams : (Pattern.params (defaultBefore none)).result =
      .ok (some [.named ⟨"a", none, false, true⟩, .named ⟨"b", none, false, false⟩]) := rfl
  refine ⟨_, hparams, (Layout.isLegal_params_iff _ hparams).mpr ?_, fun hlegal => ?_⟩
  · intro i j first later hij hi hj _ _
    have hbound : j < 2 := (List.getElem?_eq_some_iff.mp hj).1
    obtain rfl : j = 1 := by omega
    refine .inr ⟨rfl, ?_⟩
    simp [defaultBefore, Pattern.annotation]
  · have horder := (Layout.isLegal_params_iff _ hparams).mp hlegal
    rcases horder 0 1 _ _ (by decide) rfl rfl rfl rfl with h | ⟨hon, -⟩
    · cases h
    · cases hon

/-- A default value before a parameter that has a type makes a list that is not legal. -/
theorem Layout.required_behind_optional : ∃ params,
    (Pattern.params (defaultBefore (some .number))).result = .ok (some params) ∧
      ∀ on, (Layout.marking {} on).params params = "a?: any, b: number" ∧
        ¬ Param.IsLegal (Layout.marking {} on) params := by
  refine ⟨_, rfl, fun on => ⟨by cases on <;> rfl, fun hlegal => ?_⟩⟩
  have hfirst : Param.WrittenOptional (Layout.marking {} on)
      [.named ⟨"a", none, false, true⟩, .named ⟨"b", some "number", false, false⟩] 0 :=
    ⟨_, rfl, by cases on <;> rfl⟩
  have hlater := hlegal 0 1 (by decide) hfirst _ rfl rfl
  rcases (Param.writtenOptional_iff _ rfl).mp hlater with h | ⟨-, h, -, -⟩
  · cases h
  · cases h

def Param.name? : Param → Option String
  | .named param => some param.name
  | .object _ => none

/-- The text of a parameter under a name. -/
def NamesParam (name text : String) : Prop :=
  ∃ (isRest isOptional : Bool) (type : String), text =
    (if isRest then "..." else "") ++ name ++ optionalMark isOptional ++ ": " ++ type

namespace ParamSlot

/-- The name that a parameter of a function type is written under. -/
def name (slot : ParamSlot) : String := paramName slot.index slot.param.name

/-- The name that the source gives a parameter of a function type. -/
def given? (slot : ParamSlot) : Option String := slot.param.name.map (·.name)

theorem name_of_given? {slot : ParamSlot} {text : String} (h : slot.given? = some text) :
    slot.name = text := by
  obtain ⟨id, hid, rfl⟩ := Option.map_eq_some_iff.mp h
  rw [name, hid, paramName]

theorem name_of_unnamed {slot : ParamSlot} (h : slot.given? = none) :
    slot.name = "arg" ++ toString slot.index := by
  rw [name, Option.map_eq_none_iff.mp h, paramName]

theorem namesParam_texts (layout : Layout) {slots : List ParamSlot} {params : List Param}
    (h : List.Forall₂ ParamSlot.Becomes slots params) :
    List.Forall₂ NamesParam (slots.map name) (Param.texts layout params) := by
  induction h with
  | nil => exact .nil
  | @cons slot _ _ _ hfirst _ ih =>
      refine .cons ?_ ih
      cases hfirst
      exact ⟨slot.isRest, _, _, rfl⟩

theorem map_name? {slots : List ParamSlot} {params : List Param}
    (h : List.Forall₂ ParamSlot.Becomes slots params) :
    params.map Param.name? = (slots.map name).map some := by
  induction h with
  | nil => rfl
  | cons hfirst _ ih =>
      cases hfirst
      rw [List.map_cons, ih]
      rfl

end ParamSlot

namespace FunctionType

/-- The names that the parameters of a function type are written under. -/
def paramNames (type : FunctionType) : List String := type.slots.map ParamSlot.name

/-- The names that the source gives the parameters of a function type. -/
def givenNames (type : FunctionType) : List String := type.slots.filterMap ParamSlot.given?

theorem map_index_slots (type : FunctionType) :
    type.slots.map ParamSlot.index = List.range type.slots.length := by
  obtain ⟨params, rest, result, typeParams⟩ := type
  have hplaces : (params.zipIdx.map fun p => (⟨p.1, p.2, false⟩ : ParamSlot)).map ParamSlot.index =
      List.range params.length := by
    rw [List.map_map, List.range_eq_range', ← List.zipIdx_map_snd 0 params]
    rfl
  cases rest with
  | none => simpa [slots] using hplaces
  | some param => simpa [slots, List.range_succ] using hplaces

theorem arg_injective {m n : Nat} (h : "arg" ++ toString m = "arg" ++ toString n) : m = n := by
  have hdigits : Nat.toDigits 10 m = Nat.toDigits 10 n := by
    simpa using congrArg String.toList h
  have hread := congrArg (Nat.ofDigitChars 10 · 0) hdigits
  simpa using hread

/-- Names are distinct exactly if no invented one is also given. -/
theorem nodup_paramNames_iff (type : FunctionType) (hgiven : type.givenNames.Nodup) :
    type.paramNames.Nodup ↔ ∀ slot ∈ type.slots, slot.given? = none →
      "arg" ++ toString slot.index ∉ type.givenNames := by
  constructor
  · intro hnames slot hslot hunnamed hmem
    obtain ⟨other, hother, hname⟩ := List.mem_filterMap.mp hmem
    have heq : slot.name = other.name := by
      rw [ParamSlot.name_of_unnamed hunnamed, ParamSlot.name_of_given? hname]
    obtain rfl := List.inj_on_of_nodup_map hnames hslot hother heq
    rw [hunnamed] at hname
    cases hname
  · intro hfree
    have hplaces : type.slots.Pairwise fun a b => a.index ≠ b.index := by
      rw [← List.pairwise_map, map_index_slots]
      exact List.nodup_range
    have hnamed := List.pairwise_filterMap.mp hgiven
    -- Two given names differ by assumption, two invented ones by their places.
    refine List.pairwise_map.mpr ((hplaces.and hnamed).imp_of_mem ?_)
    rintro a b ha hb ⟨hindex, hdistinct⟩ heq
    cases hga : a.given? with
    | some x =>
        cases hgb : b.given? with
        | some y =>
            rw [ParamSlot.name_of_given? hga, ParamSlot.name_of_given? hgb] at heq
            exact hdistinct x hga y hgb heq
        | none =>
            rw [ParamSlot.name_of_given? hga, ParamSlot.name_of_unnamed hgb] at heq
            exact hfree b hb hgb (List.mem_filterMap.mpr ⟨a, ha, heq ▸ hga⟩)
    | none =>
        cases hgb : b.given? with
        | some y =>
            rw [ParamSlot.name_of_unnamed hga, ParamSlot.name_of_given? hgb] at heq
            exact hfree a ha hga (List.mem_filterMap.mpr ⟨b, hb, heq ▸ hgb⟩)
        | none =>
            rw [ParamSlot.name_of_unnamed hga, ParamSlot.name_of_unnamed hgb] at heq
            exact hindex (arg_injective heq)

theorem becomes_of_allParams {type : FunctionType} {params : List Param}
    (h : type.allParams = .ok params) : List.Forall₂ ParamSlot.Becomes type.slots params := by
  obtain ⟨found, hfound, h⟩ := Written.bind_eq_ok_iff.mp h
  obtain ⟨rest, hrest, h⟩ := Written.bind_eq_ok_iff.mp h
  cases h
  exact List.rel_append (FunctionParam.becomes_of_params hfound)
    (FunctionParam.becomes_of_restParams hrest)

/-- The parameters of a function type are written under the same names in a type and in a
signature. If the names that the source gives are distinct, all of them are, exactly if none of the
given names is the invented one of a parameter without a name. -/
theorem param_names_distinct_iff (type : FunctionType) (hgiven : type.givenNames.Nodup) :
    (∀ texts, type.paramTexts = .ok texts → List.Forall₂ NamesParam type.paramNames texts) ∧
      (∀ name signature, type.signature name = .ok signature →
        signature.params.map Param.name? = type.paramNames.map some) ∧
      (type.paramNames.Nodup ↔ ∀ slot ∈ type.slots, slot.given? = none →
        "arg" ++ toString slot.index ∉ type.givenNames) := by
  refine ⟨fun texts htexts => ?_, fun name signature hsignature => ?_,
    type.nodup_paramNames_iff hgiven⟩
  · rw [paramTexts_eq (show Layout.markUnspecified {} = false from rfl)] at htexts
    obtain ⟨params, hparams, htexts⟩ := Written.bind_eq_ok_iff.mp htexts
    cases htexts
    exact ParamSlot.namesParam_texts {} (becomes_of_allParams hparams)
  · obtain ⟨-, -, hbecomes⟩ := becomes_of_signature hsignature
    exact ParamSlot.map_name? hbecomes

/-- `(name: string, first, ...rest) => void`, where `name` stands for a given name and the others
have none. -/
def unnamedBehind (name : String) : FunctionType :=
  ⟨[⟨some ⟨{}, name, none, false⟩, some .string, false⟩, ⟨none, some .number, false⟩],
    some ⟨none, none, false⟩, .void, []⟩

theorem param_names_distinct_iff_arg0 :
    (unnamedBehind "arg0").givenNames.Nodup ∧
      (unnamedBehind "arg0").paramTexts = .ok ["arg0: string", "arg1: number", "...arg2: any"] ∧
      (unnamedBehind "arg0").paramNames.Nodup := by
  have hgiven : (unnamedBehind "arg0").givenNames.Nodup := by decide
  refine ⟨hgiven, rfl, ((unnamedBehind "arg0").param_names_distinct_iff hgiven).2.2.mpr ?_⟩
  decide

/-- A given name can be the one that is invented for a parameter without a name. -/
theorem given_name_is_invented :
    (unnamedBehind "arg1").givenNames.Nodup ∧
      (unnamedBehind "arg1").paramTexts = .ok ["arg1: string", "arg1: number", "...arg2: any"] ∧
      (∃ signature, (unnamedBehind "arg1").signature none = .ok signature ∧
        signature.params.map Param.name? = [some "arg1", some "arg1", some "arg2"]) ∧
      ¬ (unnamedBehind "arg1").paramNames.Nodup := by
  refine ⟨by decide, rfl, ⟨_, rfl, rfl⟩, by decide⟩

end FunctionType

end Ambient
