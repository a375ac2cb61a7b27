import Ambient.Proofs.Emission.Signatures

namespace Ambient

/-!
# Call signatures

A call signature stands in an object type or in an interface. The object type writes it without
its type parameters, and does not look at them either.
-/

/-- A call signature in the braces of an object type. -/
def CallProperty.memberText (call : CallProperty) : Written String := do
  let params ← call.value.paramTexts
  let result ← call.value.result.text
  return "(" ++ commaList params ++ "): " ++ result

theorem CallProperty.texts_cons (call : CallProperty) (rest : List CallProperty) :
    CallProperty.texts (call :: rest) = call.memberText >>= fun text =>
      CallProperty.texts rest >>= fun texts => pure (text :: texts) := by
  obtain ⟨origin, ⟨params, restParam, result, typeParams⟩, isStatic⟩ := call
  simp only [texts, memberText, FunctionType.paramTexts, bind_assoc, pure_bind]

theorem CallProperty.exists_member {calls : List CallProperty} {texts : List String}
    (h : CallProperty.texts calls = .ok texts) {call : CallProperty} (hmem : call ∈ calls) :
    ∃ before member after, call.memberText = .ok member ∧ texts = before ++ member :: after := by
  induction calls generalizing texts with
  | nil => cases hmem
  | cons first rest ih =>
      rw [texts_cons] at h
      obtain ⟨text, htext, h⟩ := Written.bind_eq_ok_iff.mp h
      obtain ⟨others, hothers, h⟩ := Written.bind_eq_ok_iff.mp h
      cases h
      rcases List.mem_cons.mp hmem with rfl | hrest
      · exact ⟨[], text, others, htext, rfl⟩
      · obtain ⟨before, member, after, hmember, rfl⟩ := ih hothers hrest
        exact ⟨text :: before, member, after, hmember, rfl⟩

/-- The text of an object type shows each of its call signatures. -/
theorem ObjectType.exists_member {type : ObjectType} {text : String} (h : type.text = .ok text)
    {call : CallProperty} (hmem : call ∈ type.calls) :
    ∃ before member after, call.memberText = .ok member ∧
      text = braced (before ++ member :: after) := by
  obtain ⟨properties, indexers, calls⟩ := type
  obtain ⟨propertyTexts, -, h⟩ := Written.bind_eq_ok_iff.mp h
  obtain ⟨indexerTexts, -, h⟩ := Written.bind_eq_ok_iff.mp h
  obtain ⟨callTexts, hcalls, h⟩ := Written.bind_eq_ok_iff.mp h
  cases h
  obtain ⟨before, member, after, hmember, rfl⟩ := CallProperty.exists_member hcalls hmem
  exact ⟨propertyTexts ++ indexerTexts ++ before, member, after, hmember,
    by rw [List.append_assoc _ before]⟩

/-- An object type has no text if one of its call signatures has none. -/
theorem ObjectType.exists_text_error {type : ObjectType} {call : CallProperty}
    (hmem : call ∈ type.calls) {error : UnsupportedType} (h : call.memberText = .error error) :
    ∃ first, type.text = .error first := by
  cases htext : type.text with
  | error first => exact ⟨first, rfl⟩
  | ok text =>
      obtain ⟨_, member, _, hmember, -⟩ := ObjectType.exists_member htext hmem
      rw [h] at hmember
      cases hmember

theorem generics_eq_empty_iff {texts : List String} : generics texts = "" ↔ texts = [] := by
  constructor
  · intro h
    by_contra hne
    have hlength := congrArg String.length h
    simp [generics, hne] at hlength
  · rintro rfl
    rfl

theorem TypeParam.texts_eq_nil {params : List TypeParam} (h : TypeParam.texts params = .ok []) :
    params = [] := by
  cases params with
  | nil => rfl
  | cons param rest =>
      obtain ⟨text, -, h⟩ := Written.bind_eq_ok_iff.mp h
      obtain ⟨texts, -, h⟩ := Written.bind_eq_ok_iff.mp h
      cases h

namespace CallProperty

theorem declaration_eq (call : CallProperty) :
    call.declaration = call.value.signature none >>= fun signature =>
      pure ⟨call.origin.comments, .interfaceCall signature⟩ := rfl

/-- A call signature reads in an interface as in the braces of an object type, and an object type
with it fails if an interface with it does. -/
def ReadsAlike (layout : Layout) (call : CallProperty) : Prop :=
  (∀ declared, call.declaration = .ok declared → ∃ member, call.memberText = .ok member ∧
    declared.form.text layout = member ++ ";") ∧
  ∀ object : ObjectType, call ∈ object.calls → ∀ error, call.declaration = .error error →
    ∃ first, object.text = .error first

variable {call : CallProperty} {typeParams params : List String} {result : String}

theorem memberText_of_writes (h : call.value.Writes typeParams params result) :
    call.memberText = .ok ("(" ++ commaList params ++ "): " ++ result) := by
  rw [memberText, h.params, h.result]
  rfl

theorem exists_declaration_of_writes {layout : Layout} (hoff : layout.markUnspecified = false)
    (h : call.value.Writes typeParams params result) :
    ∃ declared, call.declaration = .ok declared ∧ declared.form.text layout =
      generics typeParams ++ ("(" ++ commaList params ++ "): " ++ result) ++ ";" := by
  obtain ⟨signature, hsignature, hnamed, htypeParams, hparams, hresult⟩ :=
    h.exists_signature hoff none
  refine ⟨⟨call.origin.comments, .interfaceCall signature⟩, ?_, ?_⟩
  · rw [declaration_eq, hsignature]
    rfl
  · have htext := layout.signature_of_result hresult
    rw [hnamed, htypeParams, hparams] at htext
    change layout.signature signature ++ ";" = _
    rw [htext]
    simp [String.append_assoc]

/-- In an interface a call signature reads as its member of an object type, with its type
parameters in front. -/
theorem exists_texts_of_declaration {layout : Layout} (hoff : layout.markUnspecified = false)
    {declared : Declaration} (h : call.declaration = .ok declared) :
    ∃ typeParams member, TypeParam.texts call.value.typeParams = .ok typeParams ∧
      call.memberText = .ok member ∧
      declared.form.text layout = generics typeParams ++ member ++ ";" := by
  obtain ⟨signature, hsignature, -⟩ := Written.bind_eq_ok_iff.mp h
  obtain ⟨typeParams, params, result, hwrites⟩ :=
    FunctionType.exists_writes_of_signature hsignature
  obtain ⟨again, hagain, htext⟩ := exists_declaration_of_writes hoff hwrites
  obtain rfl : again = declared := Except.ok.inj (hagain.symm.trans h)
  exact ⟨typeParams, _, hwrites.typeParams, memberText_of_writes hwrites, htext⟩

theorem memberText_eq_ok_iff {member : String} :
    call.memberText = .ok member ↔ ∃ params result, call.value.paramTexts = .ok params ∧
      call.value.result.text = .ok result ∧
      member = "(" ++ commaList params ++ "): " ++ result := by
  simp only [memberText, Written.bind_eq_ok_iff, Written.pure_eq_ok, Except.ok.injEq]
  constructor
  · rintro ⟨params, hparams, result, hresult, rfl⟩
    exact ⟨params, result, hparams, hresult, rfl⟩
  · rintro ⟨params, result, hparams, hresult, rfl⟩
    exact ⟨params, hparams, result, hresult, rfl⟩

theorem object_text_of_member {member : String} (h : call.memberText = .ok member) :
    ObjectType.text ⟨[], [], [call]⟩ = .ok (braced [member]) := by
  have htexts : texts [call] = .ok [member] := by
    rw [texts_cons, h]
    rfl
  rw [ObjectType.text, htexts]
  rfl

/-- Without its type parameters a call signature stands alike in both places, and it fails in
both. -/
theorem readsAlike_of_no_typeParams {layout : Layout} (hoff : layout.markUnspecified = false)
    (h : call.value.typeParams = []) : call.ReadsAlike layout := by
  have htypeParams : TypeParam.texts call.value.typeParams = .ok [] := by rw [h]; rfl
  constructor
  · intro declared hdeclared
    obtain ⟨typeParams, member, hfound, hmember, htext⟩ :=
      exists_texts_of_declaration hoff hdeclared
    obtain rfl : typeParams = [] := Except.ok.inj (hfound.symm.trans htypeParams)
    exact ⟨member, hmember, by simpa [generics] using htext⟩
  · intro object hmem error herror
    cases hmember : call.memberText with
    | error e => exact ObjectType.exists_text_error hmem hmember
    | ok member =>
        obtain ⟨params, result, hparams, hresult, -⟩ := memberText_eq_ok_iff.mp hmember
        obtain ⟨declared, hdeclared, -⟩ :=
          exists_declaration_of_writes hoff ⟨htypeParams, hparams, hresult⟩
        rw [herror] at hdeclared
        cases hdeclared

theorem no_typeParams_of_readsAlike {layout : Layout} (hoff : layout.markUnspecified = false)
    (h : call.ReadsAlike layout) {member : String} (hmember : call.memberText = .ok member) :
    call.value.typeParams = [] := by
  obtain ⟨hsame, hfails⟩ := h
  obtain ⟨params, result, hparams, hresult, rfl⟩ := memberText_eq_ok_iff.mp hmember
  cases htypeParams : TypeParam.texts call.value.typeParams with
  | error e =>
      have hdeclaration : call.declaration = .error e := by
        obtain ⟨found, hfound, -⟩ := Written.bind_eq_ok_iff.mp
          ((FunctionType.paramTexts_eq hoff call.value).symm.trans hparams)
        rw [declaration_eq, FunctionType.signature_eq, hfound, hresult, htypeParams]
        rfl
      obtain ⟨first, hfirst⟩ := hfails ⟨[], [], [call]⟩ List.mem_cons_self e hdeclaration
      rw [object_text_of_member hmember] at hfirst
      cases hfirst
  | ok typeParams =>
      have hwrites : call.value.Writes typeParams params result := ⟨htypeParams, hparams, hresult⟩
      obtain ⟨declared, hdeclared, htext⟩ := exists_declaration_of_writes hoff hwrites
      obtain ⟨again, hagain, hsameText⟩ := hsame declared hdeclared
      obtain rfl := Except.ok.inj (hmember.symm.trans hagain)
      have hempty : generics typeParams = "" := by
        have hall := congrArg String.length (htext.symm.trans hsameText)
        simp only [String.length_append] at hall
        apply String.length_eq_zero_iff.mp
        omega
      rw [generics_eq_empty_iff.mp hempty] at htypeParams
      exact TypeParam.texts_eq_nil htypeParams

/-- A call signature of an object type is written as in an interface, but without its type
parameters. So it reads alike in both places exactly if it has none, or has no text at all. -/
theorem inline_call_drops_typeParams {layout : Layout} (hoff : layout.markUnspecified = false)
    (call : CallProperty) :
    (∀ object : ObjectType, call ∈ object.calls → ∀ text, object.text = .ok text →
      ∃ before member after, call.memberText = .ok member ∧
        text = braced (before ++ member :: after)) ∧
      (∀ declared, call.declaration = .ok declared → ∃ typeParams member,
        TypeParam.texts call.value.typeParams = .ok typeParams ∧
          call.memberText = .ok member ∧
          declared.form.text layout = generics typeParams ++ member ++ ";") ∧
      (call.ReadsAlike layout ↔
        call.value.typeParams = [] ∨ ∃ error, call.memberText = .error error) := by
  refine ⟨fun object hmem text htext => ObjectType.exists_member htext hmem,
    fun declared hdeclared => exists_texts_of_declaration hoff hdeclared, ?_, ?_⟩
  · intro halike
    cases hmember : call.memberText with
    | error e => exact .inr ⟨e, rfl⟩
    | ok member => exact .inl (no_typeParams_of_readsAlike hoff halike hmember)
  · rintro (hnone | ⟨error, hmember⟩)
    · exact readsAlike_of_no_typeParams hoff hnone
    · constructor
      · intro declared hdeclared
        obtain ⟨_, member, _, hwritten, -⟩ := exists_texts_of_declaration hoff hdeclared
        rw [hmember] at hwritten
        cases hwritten
      · exact fun object hmem _ _ => ObjectType.exists_text_error hmem hmember

/-- `<T>(x: T): T` -/
def identityCall : CallProperty :=
  let typeT : FlowType := .generic (.identifier ⟨{}, "T", none, false⟩) []
  ⟨{}, ⟨[⟨some ⟨{}, "x", none, false⟩, some typeT, false⟩], none, typeT, [⟨"T", none, none⟩]⟩,
    false⟩

theorem inline_call_drops_typeParams_identityCall :
    Layout.markUnspecified {} = false ∧ ∃ declared, identityCall.declaration = .ok declared ∧
      identityCall.memberText = .ok "(x: T): T" ∧
      declared.form.text {} = generics ["T"] ++ "(x: T): T" ++ ";" := by
  have hoff : Layout.markUnspecified {} = false := rfl
  obtain ⟨-, htexts, -⟩ := inline_call_drops_typeParams hoff identityCall
  obtain ⟨typeParams, member, htypeParams, hmember, htext⟩ := htexts _ rfl
  have hT : typeParams = ["T"] := (Except.ok.inj htypeParams).symm
  have hx : member = "(x: T): T" := (Except.ok.inj hmember).symm
  rw [hT, hx] at htext
  exact ⟨hoff, _, rfl, by rfl, htext⟩

/-- In an object type the type parameter is lost, and its name is left unbound. -/
theorem identityCall_loses_typeParam :
    (identityCall.declaration.map fun declared => declared.form.text {}) =
        .ok "<T>(x: T): T;" ∧
      (FlowType.object ⟨[], [], [identityCall]⟩).text = .ok "\x7b (x: T): T \x7d" ∧
      ¬ identityCall.ReadsAlike {} := by
  refine ⟨by rfl, by rfl, fun ⟨hsame, _⟩ => ?_⟩
  obtain ⟨member, hmember, htext⟩ := hsame _ rfl
  have hx : member = "(x: T): T" := (Except.ok.inj hmember).symm
  rw [hx] at htext
  revert htext
  decide

end CallProperty

end Ambient
