import Ambient.Declaration.Layout
import Ambient.Proofs.Emission.Result

namespace Ambient

/-!
# Function types in types and in interfaces

A function type is written in two ways: at once, where it stands inside a type, and by way of a
signature, where it is a member of an interface. Both ways have the same texts for its
parameters, its result and its type parameters. An object type leaves the type parameters of its
call signatures out, an interface does not.
-/

theorem FlowType.textOrAny_eq (type : Option FlowType) :
    FlowType.textOrAny type = FlowType.text? type >>= fun text => pure (text.getD anyText) := by
  cases type with
  | none => rfl
  | some type =>
      rw [textOrAny, text?]
      cases type.text <;> rfl

/-- The parameters of a function type's signature, the rest parameter last. -/
def FunctionType.allParams (type : FunctionType) : Written (List Param) := do
  let params ← FunctionParam.params 0 type.params
  let rest ← FunctionParam.restParams type.params.length type.rest
  return params ++ rest

theorem FunctionType.signature_eq (type : FunctionType) (name : Option String) :
    type.signature name = type.allParams >>= fun params =>
      type.result.text >>= fun result => TypeParam.texts type.typeParams >>= fun typeParams =>
        pure ⟨name, params, some result, typeParams⟩ := by
  simp only [signature, allParams, bind_assoc, pure_bind]

section

variable {layout : Layout} (hoff : layout.markUnspecified = false)
include hoff

theorem Param.texts_append_of_off (params others : List Param) :
    Param.texts layout (params ++ others) =
      Param.texts layout params ++ Param.texts layout others := by
  induction params with
  | nil => rfl
  | cons param rest ih =>
      simp only [List.cons_append, Param.texts, hoff, Bool.false_and, ih]

theorem FunctionParam.texts_eq_params (index : Nat) (params : List FunctionParam) :
    FunctionParam.texts index params =
      FunctionParam.params index params >>= fun found => pure (Param.texts layout found) := by
  induction params generalizing index with
  | nil => rfl
  | cons param rest ih =>
      obtain ⟨name, type, isOptional⟩ := param
      rw [texts, text, params, FlowType.textOrAny_eq, ih]
      cases FlowType.text? type with
      | error e => rfl
      | ok type =>
          cases params (index + 1) rest with
          | error e => rfl
          | ok found =>
              simp [Param.texts, Param.text, Parameter.text, hoff]

theorem FunctionParam.restTexts_eq_restParams (index : Nat) (rest : Option FunctionParam) :
    FunctionParam.restTexts index rest =
      FunctionParam.restParams index rest >>= fun found => pure (Param.texts layout found) := by
  cases rest with
  | none => rfl
  | some param =>
      obtain ⟨name, type, isOptional⟩ := param
      rw [restTexts, restText, restParams, FlowType.textOrAny_eq]
      cases FlowType.text? type with
      | error e => rfl
      | ok type => simp [Param.texts, Param.text, Parameter.text, optionalMark, hoff]

theorem FunctionType.paramTexts_eq (type : FunctionType) :
    type.paramTexts = type.allParams >>= fun params => pure (Param.texts layout params) := by
  rw [paramTexts, allParams, FunctionParam.texts_eq_params hoff,
    FunctionParam.restTexts_eq_restParams hoff]
  cases FunctionParam.params 0 type.params with
  | error e => rfl
  | ok params =>
      cases FunctionParam.restParams type.params.length type.rest with
      | error e => rfl
      | ok rest => simp [Param.texts_append_of_off hoff]

end

/-- The texts that a function type is made of. -/
structure FunctionType.Writes (type : FunctionType) (typeParams params : List String)
    (result : String) : Prop where
  typeParams : TypeParam.texts type.typeParams = .ok typeParams
  params : type.paramTexts = .ok params
  result : type.result.text = .ok result

section

variable {type : FunctionType} {typeParams params : List String} {result : String}

theorem FunctionType.text_eq (type : FunctionType) :
    type.text = TypeParam.texts type.typeParams >>= fun typeParams =>
      type.paramTexts >>= fun params => type.result.text >>= fun result =>
        pure (generics typeParams ++ "(" ++ commaList params ++ ") => " ++ result) := by
  obtain ⟨params, rest, result, typeParams⟩ := type
  simp only [text, paramTexts, bind_assoc, pure_bind]

theorem FunctionType.text_eq_ok_iff {text : String} :
    (FlowType.function type).text = .ok text ↔ ∃ typeParams params result,
      type.Writes typeParams params result ∧
        text = "(" ++ (generics typeParams ++ "(" ++ commaList params ++ ") => " ++ result) ++
          ")" := by
  rw [FlowType.text, FunctionType.text_eq]
  simp only [Written.bind_eq_ok_iff]
  constructor
  · rintro ⟨_, ⟨typeParams, htypeParams, params, hparams, result, hresult, h⟩, htext⟩
    cases h
    cases htext
    exact ⟨typeParams, params, result, ⟨htypeParams, hparams, hresult⟩, rfl⟩
  · rintro ⟨typeParams, params, result, ⟨htypeParams, hparams, hresult⟩, rfl⟩
    exact ⟨_, ⟨typeParams, htypeParams, params, hparams, result, hresult, rfl⟩, rfl⟩

theorem FunctionType.exists_writes_of_signature {name : Option String} {signature : Signature}
    (h : type.signature name = .ok signature) :
    ∃ typeParams params result, type.Writes typeParams params result := by
  rw [signature_eq] at h
  obtain ⟨params, hparams, h⟩ := Written.bind_eq_ok_iff.mp h
  obtain ⟨result, hresult, h⟩ := Written.bind_eq_ok_iff.mp h
  obtain ⟨typeParams, htypeParams, -⟩ := Written.bind_eq_ok_iff.mp h
  have htexts : type.paramTexts = .ok (Param.texts {} params) := by
    rw [paramTexts_eq (show Layout.markUnspecified {} = false from rfl), hparams]
    rfl
  exact ⟨typeParams, _, result, htypeParams, htexts, hresult⟩

namespace FunctionType.Writes

variable {layout : Layout} (hoff : layout.markUnspecified = false)
include hoff

theorem exists_params (h : type.Writes typeParams params result) :
    ∃ found, type.allParams = .ok found ∧ Param.texts layout found = params := by
  have hparams := h.params
  rw [paramTexts_eq hoff] at hparams
  obtain ⟨found, hfound, hpure⟩ := Written.bind_eq_ok_iff.mp hparams
  exact ⟨found, hfound, Except.ok.inj hpure⟩

/-- The signature of a function type, written with a name in front. -/
theorem exists_signature (h : type.Writes typeParams params result) (name : Option String) :
    ∃ signature, type.signature name = .ok signature ∧ signature.name = name ∧
      signature.typeParams = typeParams ∧ layout.params signature.params = commaList params ∧
      signature.result = some result := by
  obtain ⟨found, hfound, htexts⟩ := h.exists_params hoff
  refine ⟨⟨name, found, some result, typeParams⟩, ?_, rfl, rfl, ?_, rfl⟩
  · rw [signature_eq, hfound, h.result, h.typeParams]
    rfl
  · rw [Layout.params, htexts]

end FunctionType.Writes

end

theorem Layout.signature_of_result (layout : Layout) {signature : Signature} {result : String}
    (h : signature.result = some result) :
    layout.signature signature = signature.name.getD "" ++ generics signature.typeParams ++ "(" ++
      layout.params signature.params ++ "): " ++ result := by
  have hclose : ")" ++ (": " ++ result) = "): " ++ result := by
    rw [← String.append_assoc]
    rfl
  simp only [Layout.signature, h, String.append_assoc, hclose]

theorem Declaration.text_method (layout : Layout) (comments : List Comment) (signature : Signature)
    (isStatic isOptional : Bool) :
    Declaration.text layout ⟨comments, .interfaceMethod signature isStatic isOptional⟩ =
      layout.comments comments ++ layout.interfaceMethod signature isStatic isOptional := rfl

/-- A member that holds a function type. -/
def FunctionType.member (type : FunctionType) (origin : Origin) (key : PropertyKey)
    (isStatic isOptional : Bool) : ObjectProperty :=
  ⟨origin, key, .function type, isOptional, isStatic⟩

namespace Options

variable {options : Options} {key : PropertyKey} {name : String}

theorem interfaceProperty_member (type : FunctionType) (origin : Origin)
    (hname : (options.memberName key false).result = .ok (some name))
    (isStatic isOptional : Bool) :
    (options.interfaceProperty (type.member origin key isStatic isOptional)).result =
      type.signature (some name) >>= fun signature =>
        pure (some ⟨origin.comments, .interfaceMethod signature isStatic isOptional⟩) := by
  rw [interfaceProperty, Traced.bind_result]
  simp only [FunctionType.member, hname, Written.ok_bind, Traced.bind_result,
    Traced.lift_result]
  rfl

/-- A function type has a text exactly if a member of an interface can hold it, and both have the
same type parameters, the same parameters and the same result. An optional member shows no type
parameters. If the parameters cannot be written, the member fails as they do. -/
theorem function_reads_as_method (options : Options) {layout : Layout}
    (hoff : layout.markUnspecified = false) (type : FunctionType) (origin : Origin)
    {key : PropertyKey} {name : String}
    (hname : (options.memberName key false).result = .ok (some name)) :
    (∀ text, (FlowType.function type).text = .ok text → ∃ typeParams params result,
      type.Writes typeParams params result ∧
        text = "(" ++ (generics typeParams ++ "(" ++ commaList params ++ ") => " ++ result) ++
          ")" ∧
        (∃ method, (options.interfaceProperty (type.member origin key false false)).result =
            .ok (some method) ∧
          method.text layout = layout.comments origin.comments ++
            (name ++ generics typeParams ++ "(" ++ commaList params ++ "): " ++ result ++ ";")) ∧
        ∃ method, (options.interfaceProperty (type.member origin key false true)).result =
            .ok (some method) ∧
          method.text layout = layout.comments origin.comments ++
            (name ++ "?: (" ++ commaList params ++ ") => " ++ result ++ ";")) ∧
      (∀ error, type.paramTexts = .error error → ∀ isStatic isOptional,
        (options.interfaceProperty (type.member origin key isStatic isOptional)).result =
          .error error) ∧
      ∀ isStatic isOptional, (∃ text, (FlowType.function type).text = .ok text) ↔
        ∃ method, (options.interfaceProperty (type.member origin key isStatic isOptional)).result =
          .ok (some method) := by
  refine ⟨fun text htext => ?_, fun error herror isStatic isOptional => ?_,
    fun isStatic isOptional => ?_⟩
  · obtain ⟨typeParams, params, result, hwrites, rfl⟩ := FunctionType.text_eq_ok_iff.mp htext
    obtain ⟨signature, hsignature, hnamed, htypeParams, hparams, hresult⟩ :=
      hwrites.exists_signature hoff (some name)
    refine ⟨typeParams, params, result, hwrites, rfl, ?_, ?_⟩
    · refine ⟨⟨origin.comments, .interfaceMethod signature false false⟩, ?_, ?_⟩
      · rw [interfaceProperty_member type origin hname, hsignature]
        rfl
      · have hsignatureText := layout.signature_of_result hresult
        rw [hnamed, htypeParams, hparams] at hsignatureText
        simp [Declaration.text_method, Layout.interfaceMethod, staticMark, hsignatureText]
    · refine ⟨⟨origin.comments, .interfaceMethod signature false true⟩, ?_, ?_⟩
      · rw [interfaceProperty_member type origin hname, hsignature]
        rfl
      · simp [Declaration.text_method, Layout.interfaceMethod, staticMark, hnamed, hparams, hresult]
  · have hall : type.allParams = .error error := by
      rw [FunctionType.paramTexts_eq hoff] at herror
      rcases Written.bind_eq_error_iff.mp herror with hall | ⟨_, _, hpure⟩
      · exact hall
      · cases hpure
    rw [interfaceProperty_member type origin hname, FunctionType.signature_eq, hall]
    rfl
  · rw [interfaceProperty_member type origin hname]
    constructor
    · rintro ⟨text, htext⟩
      obtain ⟨typeParams, params, result, hwrites, -⟩ := FunctionType.text_eq_ok_iff.mp htext
      obtain ⟨signature, hsignature, -⟩ := hwrites.exists_signature hoff (some name)
      rw [hsignature]
      exact ⟨_, rfl⟩
    · rintro ⟨method, hmethod⟩
      obtain ⟨signature, hsignature, -⟩ := Written.bind_eq_ok_iff.mp hmethod
      obtain ⟨typeParams, params, result, hwrites⟩ :=
        FunctionType.exists_writes_of_signature hsignature
      exact ⟨_, FunctionType.text_eq_ok_iff.mpr ⟨typeParams, params, result, hwrites, rfl⟩⟩

/-- `<T extends A>(a: T, arg1?: string, ...arg2: (T | void)[]) => T` -/
def mappingType : FunctionType :=
  let typeT : FlowType := .generic (.identifier ⟨{}, "T", none, false⟩) []
  let typeA : FlowType := .generic (.identifier ⟨{}, "A", none, false⟩) []
  ⟨[⟨some ⟨{}, "a", none, false⟩, some typeT, false⟩, ⟨none, some .string, true⟩],
    some ⟨none, some (.array (.union [typeT, .void])), true⟩, typeT, [⟨"T", some typeA, none⟩]⟩

theorem function_reads_as_method_mappingType :
    let options : Options := { filter := .keepAll }
    let key : PropertyKey := .identifier ⟨{}, "map", none, false⟩
    Layout.markUnspecified {} = false ∧
      (options.memberName key false).result = .ok (some "map") ∧
      (FlowType.function mappingType).text =
        .ok "(<T extends A>(a: T, arg1?: string, ...arg2: (T | void)[]) => T)" ∧
      ∃ method, (options.interfaceProperty (mappingType.member {} key false false)).result =
          .ok (some method) ∧
        method.text {} = "map<T extends A>(a: T, arg1?: string, ...arg2: (T | void)[]): T;" := by
  intro options key
  have htext : (FlowType.function mappingType).text =
      .ok "(<T extends A>(a: T, arg1?: string, ...arg2: (T | void)[]) => T)" := by rfl
  have hoff : Layout.markUnspecified {} = false := rfl
  have hname : (options.memberName key false).result = .ok (some "map") := rfl
  obtain ⟨typeParams, params, result, hwrites, -, ⟨method, hmethod, hread⟩, -⟩ :=
    (options.function_reads_as_method hoff mappingType {} hname).1 _ htext
  have htypeParams : typeParams = ["T extends A"] := (Except.ok.inj hwrites.typeParams).symm
  have hparams : params = ["a: T", "arg1?: string", "...arg2: (T | void)[]"] :=
    (Except.ok.inj hwrites.params).symm
  have hresult : result = "T" := (Except.ok.inj hwrites.result).symm
  refine ⟨hoff, hname, htext, method, hmethod, ?_⟩
  rw [hread, htypeParams, hparams, hresult]
  rfl

end Options

end Ambient
