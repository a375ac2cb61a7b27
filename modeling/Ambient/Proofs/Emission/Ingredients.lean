import Ambient.Proofs.Emission.WrittenParams

namespace Ambient

/-!
# What is put between quotes

A document puts texts between quotes in the names of members, in the sources of imports and
exports, and in the name of the module. A member is named by its key, by the key of a
destructured parameter, or inside a type at any depth. So the document is followed from the
statements down to all places where keys can stand.
-/

namespace PropertyKey

/-- The value of a key that has no text in the source. -/
def quoted? : PropertyKey → Option String
  | .string ⟨_, value, none⟩ => some value
  | _ => none

variable {key : PropertyKey} {value : String}

theorem exists_of_quoted? (h : key.quoted? = some value) :
    ∃ origin, key = .string ⟨origin, value, none⟩ := by
  unfold quoted? at h
  split at h
  next origin found =>
      cases h
      exact ⟨origin, rfl⟩
  next => cases h

theorem written_of_quoted? (h : key.quoted? = some value) :
    key.written = .ok (Text.inQuotes value) := by
  obtain ⟨origin, rfl⟩ := exists_of_quoted? h
  rfl

theorem declaredName_of_quoted? (h : key.quoted? = some value) (computed : Bool) :
    key.declaredName computed = some (Text.inQuotes value) := by
  obtain ⟨origin, rfl⟩ := exists_of_quoted? h
  rfl

theorem eq_inQuotes_of_destructuredKey? (h : key.quoted? = some value) {computed : Bool}
    {name : String} (hname : destructuredKey? key computed = some name) :
    name = Text.inQuotes value := by
  obtain ⟨origin, rfl⟩ := exists_of_quoted? h
  cases computed with
  | false => exact (Option.some.inj hname).symm
  | true => cases hname

end PropertyKey

/-- An object type in a type has a key that is put between quotes. -/
def FlowType.Quotes (type : FlowType) (value : String) : Prop :=
  ∃ object property, type.Contains (.object object) ∧
    .property property ∈ object.properties ∧ property.key.quoted? = some value

theorem ObjectType.within_text_of_key {object : ObjectType} {text : String}
    (h : object.text = .ok text) {property : ObjectProperty}
    (hproperty : .property property ∈ object.properties) {name : String}
    (hname : property.key.written = .ok name) : Text.Within name text := by
  obtain ⟨properties, indexers, calls, hproperties, -, -, rfl⟩ := ObjectType.exists_texts h
  obtain ⟨member, hmember, htext⟩ := Written.exists_mem_of_each hproperties hproperty
  obtain ⟨found, value, hfound, -, rfl⟩ := ObjectMember.exists_text htext
  obtain rfl := Except.ok.inj (hfound.symm.trans hname)
  have hmem := List.mem_append_left calls (List.mem_append_left indexers hmember)
  refine Text.Within.trans ?_ (within_braced hmem)
  exact (((Text.Within.refl found).append_right _).append_right _).append_right _

theorem FlowType.WrittenIn.within_of_quotes {type : FlowType} {text value : String}
    (h : type.WrittenIn text) (hquotes : type.Quotes value) :
    Text.Within (Text.inQuotes value) text := by
  obtain ⟨outer, houter, hwithin⟩ := h
  obtain ⟨object, property, hcontains, hproperty, hkey⟩ := hquotes
  obtain ⟨inner, hinner, hobject⟩ := FlowType.writtenIn_of_contains houter hcontains
  have hname := PropertyKey.written_of_quoted? hkey
  exact ((ObjectType.within_text_of_key hinner hproperty hname).trans hobject).trans hwithin

/-- A parameter has a key that is put between quotes, or one of its types has. -/
def Pattern.Quotes (pattern : Pattern) (value : String) : Prop :=
  (∃ key, pattern.HasKey key ∧ key.quoted? = some value) ∨
    ∃ type, pattern.HasType type ∧ type.Quotes value

/-- Something of the source that a declaration is written with. -/
inductive Ingredient
  | key (key : PropertyKey)
  | type (type : FlowType)
  | param (pattern : Pattern)

def Ingredient.Quotes (value : String) : Ingredient → Prop
  | .key name => name.quoted? = some value
  | .type written => written.Quotes value
  | .param pattern => pattern.Quotes value

/-- What a signature is written with, apart from its name. -/
def signatureIngredients (params : List Pattern) (result : Option FlowType)
    (typeParams : List TypeParam) : List Ingredient :=
  params.map .param ++ (result.toList ++ typeParams.flatMap TypeParam.types).map .type

/-- What a member of a class is declared with. A getter is declared without its parameters, a
constructor without its name, and a setter not at all. -/
def ClassMember.ingredients : ClassMember → List Ingredient
  | .method member =>
    match member.kind with
    | .constructor => member.params.map .param
    | .get => .key member.key :: member.result.toList.map .type
    | .set => []
    | .method =>
      .key member.key :: signatureIngredients member.params member.result member.typeParams
  | .property member => .key member.key :: member.type.toList.map .type
  | .unsupported _ => []

/-- The types that a property of an interface is declared with. An optional method is declared
without its type parameters. -/
def ObjectProperty.types (property : ObjectProperty) : List FlowType :=
  match property.value with
  | .function type => if property.optional then type.bareTypes else type.types
  | value => [value]

def ObjectMember.ingredients : ObjectMember → List Ingredient
  | .property member => .key member.key :: member.types.map .type
  | .unsupported _ => []

def Declarator.ingredients (d : Declarator) : List Ingredient :=
  match d.id with
  | .identifier id => id.type.toList.map .type
  | _ => []

section

variable {layout : Layout} {value : String} {d : Declaration}

theorem FlowType.writtenAmong_text? {type : FlowType} {type? : Option FlowType}
    {text? : Option String} (h : FlowType.text? type? = .ok text?) (htype : type ∈ type?.toList) :
    type.WrittenAmong text?.toList := by
  obtain rfl := Option.mem_toList.mp htype
  obtain ⟨text, htext, rfl⟩ := FlowType.exists_of_text? h
  exact ⟨text, List.mem_singleton_self text, FlowType.writtenIn_of_text htext⟩

theorem FlowType.writtenAmong_textOrAny {type : FlowType} {type? : Option FlowType} {text : String}
    (h : FlowType.textOrAny type? = .ok text) (htype : type ∈ type?.toList) :
    type.WrittenAmong [text] :=
  ⟨text, List.mem_singleton_self text, FlowType.writtenIn_textOrAny h (Option.mem_toList.mp htype)⟩

namespace Declaration.Shows

theorem of_key {key : PropertyKey} {computed : Bool} {name : String}
    (hname : key.declaredName computed = some name) (hpiece : name ∈ d.form.pieces layout)
    (h : key.quoted? = some value) : d.Shows layout (Text.inQuotes value) := by
  rw [PropertyKey.declaredName_of_quoted? h computed] at hname
  cases hname
  exact .here hpiece (.refl _)

theorem of_type {type : FlowType} (hwritten : type.WrittenAmong (d.form.pieces layout))
    (h : type.Quotes value) : d.Shows layout (Text.inQuotes value) := by
  obtain ⟨piece, hpiece, hwritten⟩ := hwritten
  exact .here hpiece (hwritten.within_of_quotes h)

theorem of_param (hstep : ∀ c ∈ layout.step.toList, c = ' ') {patterns : List Pattern}
    {params : List Param} (hparams : (Pattern.params patterns).result = .ok (some params))
    (hpieces : Param.texts layout params ⊆ d.form.pieces layout) {pattern : Pattern}
    (hpattern : pattern ∈ patterns) (h : pattern.Quotes value) :
    d.Shows layout (Text.inQuotes value) := by
  rcases h with ⟨key, hkey, hquoted⟩ | ⟨type, htype, hquotes⟩
  · obtain ⟨name, computed, hname, text, htext, hwithin⟩ :=
      Pattern.exists_key_texts hstep hparams hpattern hkey
    rw [PropertyKey.eq_inQuotes_of_destructuredKey? hquoted hname] at hwithin
    exact .here (hpieces htext) hwithin
  · exact of_type ((Pattern.writtenAmong_texts hstep hparams hpattern htype).of_subset hpieces)
      hquotes

theorem of_signature (hstep : ∀ c ∈ layout.step.toList, c = ' ') {patterns : List Pattern}
    {result : Option FlowType} {typeParams : List TypeParam} {signature : Signature}
    (hparams : (Pattern.params patterns).result = .ok (some signature.params))
    (hresult : FlowType.text? result = .ok signature.result)
    (htypeParams : TypeParam.texts typeParams = .ok signature.typeParams)
    (hpieces : signature.pieces layout ⊆ d.form.pieces layout) {ingredient : Ingredient}
    (hmem : ingredient ∈ signatureIngredients patterns result typeParams)
    (h : ingredient.Quotes value) : d.Shows layout (Text.inQuotes value) := by
  rcases List.mem_append.mp hmem with hmem | hmem
  · obtain ⟨pattern, hpattern, rfl⟩ := List.mem_map.mp hmem
    refine of_param hstep hparams (fun text htext => hpieces ?_) hpattern h
    exact Signature.mem_pieces.mpr (.inr (.inr (.inl htext)))
  · obtain ⟨type, htype, rfl⟩ := List.mem_map.mp hmem
    refine of_type (FlowType.WrittenAmong.of_subset ?_ hpieces) h
    rcases List.mem_append.mp htype with htype | htype
    · refine (FlowType.writtenAmong_text? hresult htype).of_subset fun text htext => ?_
      exact Signature.mem_pieces.mpr (.inr (.inr (.inr (Option.mem_toList.mp htext))))
    · refine (TypeParam.writtenAmong_texts htypeParams htype).of_subset fun text htext => ?_
      exact Signature.mem_pieces.mpr (.inr (.inl htext))

end Declaration.Shows

end

section

variable {options : Options} {layout : Layout} {value : String} {ingredient : Ingredient}
  {declared : Declaration}

theorem Declarator.shows {d : Declarator}
    (h : (options.declarator d).result = .ok (some declared)) (hmem : ingredient ∈ d.ingredients)
    (hquotes : ingredient.Quotes value) : declared.Shows layout (Text.inQuotes value) := by
  obtain ⟨id, text, hid, htext, rfl⟩ := Options.declared_of_declarator h
  rw [ingredients, hid] at hmem
  obtain ⟨type, htype, rfl⟩ := List.mem_map.mp hmem
  exact .of_type (FlowType.writtenAmong_textOrAny htext htype) hquotes

theorem ClassMember.shows (hstep : ∀ c ∈ layout.step.toList, c = ' ') {member : ClassMember}
    (h : (options.classMember member).result = .ok (some declared))
    (hmem : ingredient ∈ member.ingredients) (hquotes : ingredient.Quotes value) :
    declared.Shows layout (Text.inQuotes value) := by
  obtain ⟨comments, form⟩ := declared
  rcases Options.declared_of_classMember h with ⟨method, rfl, h⟩ | ⟨property, rfl, h⟩
  · obtain ⟨-, params, hparams, hform⟩ := Options.declared_of_classMethod h
    -- A constructor, a getter, and a method; a setter is not declared.
    rcases hform with ⟨hkind, rfl⟩ | ⟨name, hname, hform⟩
    · simp only [ingredients, hkind] at hmem
      obtain ⟨pattern, hpattern, rfl⟩ := List.mem_map.mp hmem
      exact .of_param hstep hparams (List.Subset.refl _) hpattern hquotes
    · rcases hform with ⟨hkind, text, htext, rfl⟩ |
        ⟨hkind, result, typeParams, hresult, htypeParams, rfl⟩
      · simp only [ingredients, hkind] at hmem
        rcases List.mem_cons.mp hmem with rfl | hmem
        · exact .of_key hname List.mem_cons_self hquotes
        · obtain ⟨type, htype, rfl⟩ := List.mem_map.mp hmem
          refine .of_type ?_ hquotes
          exact (FlowType.writtenAmong_textOrAny htext htype).of_subset (List.subset_cons_self _ _)
      · simp only [ingredients, hkind] at hmem
        rcases List.mem_cons.mp hmem with rfl | hmem
        · exact .of_key hname (Signature.mem_pieces.mpr (.inl rfl)) hquotes
        · exact .of_signature hstep hparams hresult htypeParams (List.Subset.refl _) hmem hquotes
  · obtain ⟨name, text, hname, htext, hdeclared⟩ := Options.declared_of_classProperty h
    cases hdeclared
    rcases List.mem_cons.mp hmem with rfl | hmem
    · exact .of_key hname List.mem_cons_self hquotes
    · obtain ⟨type, htype, rfl⟩ := List.mem_map.mp hmem
      refine .of_type ?_ hquotes
      exact (FlowType.writtenAmong_textOrAny htext htype).of_subset (List.subset_cons_self _ _)

theorem ObjectProperty.writtenIn_of_mem_types {property : ObjectProperty} {text : String}
    (h : property.value.text = .ok text) {type : FlowType} (htype : type ∈ property.types) :
    type.WrittenIn text := by
  unfold types at htype
  split at htype
  next function hvalue =>
      rw [hvalue] at h
      refine FunctionType.writtenIn_text h ?_
      split at htype
      · exact List.mem_append_right _ htype
      · exact htype
  next =>
      obtain rfl := List.mem_singleton.mp htype
      exact FlowType.writtenIn_of_text h

theorem ObjectProperty.writtenAmong_of_mem_types {property : ObjectProperty}
    {function : FunctionType} (hvalue : property.value = .function function) {name : Option String}
    {signature : Signature} (h : function.signature name = .ok signature) {type : FlowType}
    (htype : type ∈ property.types) (layout : Layout) : type.WrittenAmong
      ((DeclarationForm.interfaceMethod signature property.isStatic property.optional).pieces
        layout) := by
  simp only [types, hvalue] at htype
  cases hoptional : property.optional with
  | true =>
      rw [hoptional, if_pos rfl] at htype
      exact FunctionType.writtenAmong_of_mem_bareTypes layout h htype
  | false =>
      rw [hoptional, if_neg Bool.false_ne_true] at htype
      exact FunctionType.writtenAmong_of_mem_types h htype

theorem ObjectMember.shows {member : ObjectMember}
    (h : (options.interfaceMember member).result = .ok (some declared))
    (hmem : ingredient ∈ member.ingredients) (hquotes : ingredient.Quotes value) :
    declared.Shows layout (Text.inQuotes value) := by
  obtain ⟨comments, form⟩ := declared
  obtain ⟨property, rfl, h⟩ := Options.declared_of_interfaceMember h
  obtain ⟨-, name, hname, hform⟩ := Options.declared_of_interfaceProperty h
  rcases hform with ⟨function, signature, hvalue, hsignature, rfl⟩ | ⟨text, htext, rfl⟩
  · rcases List.mem_cons.mp hmem with rfl | hmem
    · refine .of_key hname ?_ hquotes
      obtain ⟨hnamed, -, -⟩ := FunctionType.becomes_of_signature hsignature
      rw [DeclarationForm.pieces]
      split <;> exact Signature.mem_pieces.mpr (.inl hnamed)
    · obtain ⟨type, htype, rfl⟩ := List.mem_map.mp hmem
      exact .of_type (ObjectProperty.writtenAmong_of_mem_types hvalue hsignature htype layout)
        hquotes
  · rcases List.mem_cons.mp hmem with rfl | hmem
    · exact .of_key hname List.mem_cons_self hquotes
    · obtain ⟨type, htype, rfl⟩ := List.mem_map.mp hmem
      have hwritten := ObjectProperty.writtenIn_of_mem_types htext htype
      exact .of_type ⟨text, List.mem_cons_of_mem _ List.mem_cons_self, hwritten⟩ hquotes

theorem Indexer.shows {indexer : Indexer} (h : indexer.declaration = .ok declared)
    {type : FlowType} (htype : type ∈ indexer.types) (hquotes : type.Quotes value) :
    declared.Shows layout (Text.inQuotes value) := by
  obtain ⟨key, found, hkey, hfound, rfl⟩ := Options.declared_of_indexer h
  refine .of_type ?_ hquotes
  rcases List.mem_pair.mp htype with rfl | rfl
  · exact ⟨key, List.mem_cons_self, FlowType.writtenIn_of_text hkey⟩
  · exact ⟨found, List.mem_cons_of_mem _ List.mem_cons_self, FlowType.writtenIn_of_text hfound⟩

theorem CallProperty.shows {call : CallProperty} (h : call.declaration = .ok declared)
    {type : FlowType} (htype : type ∈ call.value.types) (hquotes : type.Quotes value) :
    declared.Shows layout (Text.inQuotes value) := by
  obtain ⟨signature, hsignature, rfl⟩ := Options.declared_of_callProperty h
  exact .of_type (FunctionType.writtenAmong_of_mem_types hsignature htype) hquotes

theorem Implemented.shows {implemented : Implemented} (h : implemented.declaration = .ok declared)
    {type : FlowType} (htype : type ∈ implemented.arguments) (hquotes : type.Quotes value) :
    declared.Shows layout (Text.inQuotes value) := by
  obtain ⟨arguments, harguments, rfl⟩ := Options.declared_of_implemented h
  exact .of_type (FlowType.writtenAmong_texts harguments htype) hquotes

theorem InterfaceBase.writtenIn_text {base : InterfaceBase} {text : String}
    (h : base.text = .ok text) {type : FlowType} (htype : type ∈ base.arguments) :
    type.WrittenIn text := by
  obtain ⟨arguments, harguments, h⟩ := Written.bind_eq_ok_iff.mp h
  obtain ⟨name, -, h⟩ := Written.bind_eq_ok_iff.mp h
  cases h
  refine (FlowType.writtenAmong_texts harguments htype).writtenIn fun _ htext => ?_
  exact (within_generics htext).append_left name

end

end Ambient
