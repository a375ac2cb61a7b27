import Ambient.Proofs.Number.Shortest
import Ambient.Proofs.TypeGrammar.Unambiguous
import Ambient.Proofs.TypeText.Form
import Ambient.Proofs.TypeText.Reading
import Ambient.Proofs.TypeText.Written

namespace Ambient

open Lexical TypeGrammar

/-!
# Types are written as they are meant

What is written for an annotation is a type of the grammar, and of no other type
than the annotation: the parentheses are where they have to be.
-/

theorem isBindingName_paramName {name : Option Identifier} (h : isBindable name = true)
    (index : Nat) : isBindingName (paramName index name) = true := by
  cases name with
  | none => exact isBindingName_arg index
  | some id => exact h

theorem isBindingName_indexName {id : Option Identifier} (h : isBindable id = true) :
    isBindingName (indexName id) = true := by
  cases id with
  | none => decide
  | some id => exact h

theorem isNumeral_numberText (value : Double) {raw : Option String}
    (h : raw.all isNumeral = true) : isNumeral (numberText value raw) = true := by
  cases raw with
  | none => exact value.isNumeral_text
  | some raw => exact h

/-- The names of a reference are read one by one, the outermost first. -/
theorem TypeRef.reads : ∀ name : TypeRef, name.isWellFormed = true →
    name.text.Yields fun text => ∃ (outer : TypeName) (inner : List Name),
      name.path = outer.val :: inner.map (·.val) ∧ ReadsName text (dotted outer inner)
  | .identifier id => fun h =>
    Written.yields_ok ⟨⟨id.name, h⟩, [], rfl, by
      simpa [dotted, separated, followed] using readsName (isName_of_isTypeName h)⟩
  | .qualified qualification id => by
      intro h
      rw [isWellFormed, Bool.and_eq_true] at h
      refine (qualification.reads h.1).bind ?_
      rintro text ⟨outer, inner, hpath, hreads⟩
      refine Written.yields_pure ⟨outer, inner ++ [⟨id.name, h.2⟩], by simp [path, hpath], ?_⟩
      simpa [dotted, separated, followed] using hreads.dot h.2
  | .unsupported _ => nofun

theorem PropertyKey.reads (key : PropertyKey) (h : key.isWellFormed = true) :
    key.written.Yields fun text => ∃ name : MemberName,
      name.form = key.form ∧ Reads text [name.token] := by
  cases key with
  | identifier id => exact Written.yields_ok ⟨.word ⟨id.name, h⟩, rfl, reads_name h⟩
  | string literal => exact Written.yields_ok ⟨.string ⟨literal.text, h⟩, rfl, reads_literal h⟩
  | unsupported kind => cases h

/-- How tightly the text of an annotation is held together. -/
def FlowType.level (type : FlowType) : Binding := type.binding?.getD .element

/-- A type is written, and its text is read as a type of its kind. -/
def FlowType.ReadsBack (type : FlowType) : Prop :=
  type.text.Yields fun text => type.level.Accepts text type.form

theorem FlowType.forms_ne_nil {types : List FlowType} (h : (!types.isEmpty) = true) :
    FlowType.forms types ≠ [] := by
  cases types with
  | nil => cases h
  | cons type rest => exact List.cons_ne_nil _ _

theorem FlowType.reads_keyword {type : FlowType} {word : String} (htext : type.text = .ok word)
    (hlevel : type.level = .element) (hform : type.form = .keyword word)
    (hword : word ∈ keywordTypes) : type.ReadsBack := by
  rw [ReadsBack, htext, hlevel, hform]
  exact Written.yields_ok (accepts_keyword hword)

mutual

/-- Each part of an annotation is written, and is read as a tree with the same
normal form. -/
theorem FlowType.readsBack : ∀ type : FlowType, type.isWellFormed = true → type.ReadsBack
  | .generic name arguments => by
      intro h
      rw [FlowType.isWellFormed, Bool.and_eq_true] at h
      refine (name.reads h.1).bind ?_
      rintro nameText ⟨outer, inner, hpath, hname⟩
      refine (FlowType.texts_readBack arguments h.2).bind fun texts htexts => ?_
      refine Written.yields_pure ?_
      rw [FlowType.form, hpath]
      exact accepts_reference hname htexts
  | .void => fun _ => FlowType.reads_keyword rfl rfl rfl (by decide)
  | .number => fun _ => FlowType.reads_keyword rfl rfl rfl (by decide)
  | .string => fun _ => FlowType.reads_keyword rfl rfl rfl (by decide)
  | .boolean => fun _ => FlowType.reads_keyword rfl rfl rfl (by decide)
  | .any => fun _ => FlowType.reads_keyword rfl rfl rfl (by decide)
  | .null => fun _ => FlowType.reads_keyword rfl rfl rfl (by decide)
  | .union types => by
      intro h
      rw [FlowType.isWellFormed, Bool.and_eq_true] at h
      refine (FlowType.operands_readBack .union types h.2).bind fun texts htexts => ?_
      exact Written.yields_pure (accepts_union (FlowType.forms_ne_nil h.1) htexts)
  | .intersection types => by
      intro h
      rw [FlowType.isWellFormed, Bool.and_eq_true] at h
      refine (FlowType.operands_readBack .intersection types h.2).bind fun texts htexts => ?_
      exact Written.yields_pure (accepts_intersection (FlowType.forms_ne_nil h.1) htexts)
  | .function type => fun h =>
    (type.readsBack h).bind fun _ htext => Written.yields_pure htext
  | .array element => fun h =>
    (element.readsBack h).bind fun _ htext =>
      Written.yields_pure (accepts_array (accepts_enclose htext))
  | .tuple elements => fun h =>
    (FlowType.texts_readBack elements h).bind fun _ htexts =>
      Written.yields_pure (accepts_tuple htexts)
  | .object type => fun h => type.readsBack h
  | .nullable inner => by
      intro h
      refine (inner.readsBack h).bind fun text htext => ?_
      -- The text is that of a union whose last two operands are fixed.
      have hnull : Binding.union.Accepts "null" (.keyword "null") :=
        (accepts_keyword (by decide)).loosen (Nat.zero_le _)
      have hundefined : Binding.union.Accepts "undefined" (.keyword "undefined") :=
        (accepts_keyword (by decide)).loosen (Nat.zero_le _)
      have hall := accepts_union (List.cons_ne_nil _ _)
        (.cons (accepts_enclose htext) (.cons hnull (.cons hundefined .nil)))
      have htext' : " | ".intercalate [enclose inner.binding? .union text, "null", "undefined"] =
          enclose inner.binding? .union text ++ " | null | undefined" := by
        simp [String.intercalate_cons_cons, String.append_assoc]
      exact Written.yields_pure (htext' ▸ hall)
  | .stringLiteral value => fun _ => Written.yields_ok (accepts_string value)
  | .numberLiteral value _ => fun h =>
    Written.yields_ok (accepts_number (isNumeral_numberText value h))
  | .booleanLiteral value => fun _ =>
    FlowType.reads_keyword rfl rfl rfl (by cases value <;> decide)
  | .unsupported _ => nofun

theorem FlowType.texts_readBack : ∀ types : List FlowType, FlowType.areWellFormed types = true →
    (FlowType.texts types).Yields fun texts =>
      List.Forall₂ Binding.union.Accepts texts (FlowType.forms types)
  | [] => fun _ => Written.yields_ok .nil
  | type :: rest => by
      intro h
      rw [FlowType.areWellFormed, Bool.and_eq_true] at h
      refine (type.readsBack h.1).bind fun text htext => ?_
      refine (FlowType.texts_readBack rest h.2).bind fun texts htexts => ?_
      exact Written.yields_pure (.cons (htext.loosen (Nat.zero_le _)) htexts)

theorem FlowType.operands_readBack (context : Binding) :
    ∀ types : List FlowType, FlowType.areWellFormed types = true →
      (FlowType.operands context types).Yields fun texts =>
        List.Forall₂ context.Accepts texts (FlowType.forms types)
  | [] => fun _ => Written.yields_ok .nil
  | type :: rest => by
      intro h
      rw [FlowType.areWellFormed, Bool.and_eq_true] at h
      refine (type.readsBack h.1).bind fun text htext => ?_
      refine (FlowType.operands_readBack context rest h.2).bind fun texts htexts => ?_
      exact Written.yields_pure (.cons (accepts_enclose htext) htexts)

theorem FlowType.textOrAny_readsBack :
    ∀ type : Option FlowType, FlowType.isWellFormed? type = true →
      (FlowType.textOrAny type).Yields fun text =>
        Binding.union.Accepts text (FlowType.formOrAny type)
  | none => fun _ =>
    Written.yields_ok ((accepts_keyword (by decide)).loosen (Nat.zero_le _))
  | some type => by
      intro h
      obtain ⟨text, htext, haccepts⟩ := type.readsBack h
      exact ⟨text, htext, haccepts.loosen (Nat.zero_le _)⟩

theorem FlowType.textAfter_readsBack {word : String} {lead : Token}
    (hword : Closed word.toList [lead]) (hends : Separates word.toList) :
    ∀ type : Option FlowType, FlowType.isWellFormed? type = true →
      (FlowType.textAfter word type).Yields fun text =>
        ReadsAfter lead text (FlowType.form? type)
  | none => fun _ => Written.yields_ok (readsAfter_none lead)
  | some type => fun h =>
    (type.readsBack h).bind fun _ htext =>
      Written.yields_pure (readsAfter_some hword hends (htext.loosen (Nat.zero_le _)))

/-- A function type becomes a type when it is put in parentheses. -/
theorem FunctionType.readsBack : ∀ type : FunctionType, type.isWellFormed = true →
    type.text.Yields fun text =>
      Binding.element.Accepts ("(" ++ text ++ ")") (.function type.form type.resultForm)
  | ⟨params, rest, result, typeParams⟩ => by
      intro h
      simp only [FunctionType.isWellFormed, Bool.and_eq_true] at h
      obtain ⟨⟨⟨htypeParams, hparams⟩, hrest⟩, hresult⟩ := h
      refine (TypeParam.texts_readBack typeParams htypeParams).bind fun typeTexts htypeTexts => ?_
      refine (FunctionParam.texts_readBack 0 params hparams).bind fun texts htexts => ?_
      refine (FunctionParam.restTexts_readBack params.length rest hrest).bind
        fun restTexts hrestTexts => ?_
      refine (result.readsBack hresult).bind fun text htext => Written.yields_pure ?_
      exact accepts_function htypeTexts htexts hrestTexts (htext.loosen (Nat.zero_le _))

theorem FunctionParam.texts_readBack (index : Nat) :
    ∀ params : List FunctionParam, FunctionParam.areWellFormed params = true →
      (FunctionParam.texts index params).Yields fun texts =>
        List.Forall₂ (ReadsAs ValueParameter.tokens ValueParameter.form) texts
          (FunctionParam.forms index params)
  | [] => fun _ => Written.yields_ok .nil
  | param :: rest => by
      intro h
      rw [FunctionParam.areWellFormed, Bool.and_eq_true] at h
      refine (param.readsBack index h.1).bind fun text htext => ?_
      refine (FunctionParam.texts_readBack (index + 1) rest h.2).bind fun texts htexts => ?_
      exact Written.yields_pure (.cons htext htexts)

theorem FunctionParam.readsBack (index : Nat) :
    ∀ param : FunctionParam, param.isWellFormed = true →
      (param.text index).Yields fun text =>
        ReadsAs ValueParameter.tokens ValueParameter.form text (param.form index)
  | ⟨name, type, isOptional⟩ => by
      intro h
      rw [FunctionParam.isWellFormed, Bool.and_eq_true] at h
      refine (FlowType.textOrAny_readsBack type h.2).bind fun text htext => ?_
      exact Written.yields_pure
        (readsAs_parameter (isBindingName_paramName h.1 index) isOptional htext)

theorem FunctionParam.restTexts_readBack (index : Nat) :
    ∀ rest : Option FunctionParam, FunctionParam.isWellFormed? rest = true →
      (FunctionParam.restTexts index rest).Yields fun texts =>
        ReadsRest texts (FunctionParam.restForms index rest)
  | none => fun _ => Written.yields_ok readsRest_none
  | some param => fun h =>
    (param.restText_readsBack index h).bind fun _ htext =>
      Written.yields_pure (readsRest_some htext)

theorem FunctionParam.restText_readsBack (index : Nat) :
    ∀ param : FunctionParam, param.isWellFormed = true →
      (param.restText index).Yields fun text =>
        ReadsAs RestParameter.tokens RestParameter.form text (param.restForm index)
  | ⟨name, type, _⟩ => by
      intro h
      rw [FunctionParam.isWellFormed, Bool.and_eq_true] at h
      refine (FlowType.textOrAny_readsBack type h.2).bind fun text htext => ?_
      exact Written.yields_pure (readsAs_rest (isBindingName_paramName h.1 index) htext)

theorem TypeParam.texts_readBack :
    ∀ params : List TypeParam, TypeParam.areWellFormed params = true →
      (TypeParam.texts params).Yields fun texts =>
        List.Forall₂ (ReadsAs TypeParameter.tokens TypeParameter.form) texts
          (TypeParam.forms params)
  | [] => fun _ => Written.yields_ok .nil
  | param :: rest => by
      intro h
      rw [TypeParam.areWellFormed, Bool.and_eq_true] at h
      refine (param.readsBack h.1).bind fun text htext => ?_
      refine (TypeParam.texts_readBack rest h.2).bind fun texts htexts => ?_
      exact Written.yields_pure (.cons htext htexts)

theorem TypeParam.readsBack : ∀ param : TypeParam, param.isWellFormed = true →
    param.text.Yields fun text =>
      ReadsAs TypeParameter.tokens TypeParameter.form text param.form
  | ⟨name, bound, fallback⟩ => by
      intro h
      simp only [TypeParam.isWellFormed, Bool.and_eq_true] at h
      obtain ⟨⟨hname, hbound⟩, hfallback⟩ := h
      refine (FlowType.textAfter_readsBack closed_extends (separates_plain rfl) bound hbound).bind
        fun boundText hboundText => ?_
      refine (FlowType.textAfter_readsBack closed_equals (separates_plain rfl) fallback
        hfallback).bind fun fallbackText hfallbackText => ?_
      exact Written.yields_pure (readsAs_typeParameter hname hboundText hfallbackText)

theorem ObjectType.readsBack : ∀ type : ObjectType, type.isWellFormed = true →
    type.text.Yields fun text => Binding.element.Accepts text (.object type.forms)
  | ⟨properties, indexers, calls⟩ => by
      intro h
      simp only [ObjectType.isWellFormed, Bool.and_eq_true] at h
      obtain ⟨⟨hproperties, hindexers⟩, hcalls⟩ := h
      refine (ObjectMember.texts_readBack properties hproperties).bind fun propertyTexts hp => ?_
      refine (Indexer.texts_readBack indexers hindexers).bind fun indexerTexts hi => ?_
      refine (CallProperty.texts_readBack calls hcalls).bind fun callTexts hc => ?_
      exact Written.yields_pure (accepts_object (List.rel_append (List.rel_append hp hi) hc))

theorem ObjectMember.texts_readBack :
    ∀ members : List ObjectMember, ObjectMember.areWellFormed members = true →
      (ObjectMember.texts members).Yields fun texts =>
        List.Forall₂ (ReadsAs Member.tokens Member.form) texts (ObjectMember.forms members)
  | [] => fun _ => Written.yields_ok .nil
  | .property ⟨_, key, value, isOptional, _⟩ :: rest => by
      intro h
      simp only [ObjectMember.areWellFormed, Bool.and_eq_true] at h
      obtain ⟨⟨hkey, hvalue⟩, hrest⟩ := h
      refine (key.reads hkey).bind ?_
      rintro name ⟨memberName, hform, hname⟩
      refine (value.readsBack hvalue).bind fun text htext => ?_
      refine (ObjectMember.texts_readBack rest hrest).bind fun texts htexts => ?_
      refine Written.yields_pure (.cons ?_ htexts)
      rw [← hform]
      exact readsAs_property hname isOptional (htext.loosen (Nat.zero_le _))
  | .unsupported _ :: _ => nofun

theorem Indexer.texts_readBack :
    ∀ indexers : List Indexer, Indexer.areWellFormed indexers = true →
      (Indexer.texts indexers).Yields fun texts =>
        List.Forall₂ (ReadsAs Member.tokens Member.form) texts (Indexer.forms indexers)
  | [] => fun _ => Written.yields_ok .nil
  | ⟨_, id, key, value, _⟩ :: rest => by
      intro h
      simp only [Indexer.areWellFormed, Bool.and_eq_true] at h
      obtain ⟨⟨⟨hid, hkey⟩, hvalue⟩, hrest⟩ := h
      refine (key.readsBack hkey).bind fun keyText hkeyText => ?_
      refine (value.readsBack hvalue).bind fun text htext => ?_
      refine (Indexer.texts_readBack rest hrest).bind fun texts htexts => ?_
      refine Written.yields_pure (.cons ?_ htexts)
      exact readsAs_index (isBindingName_indexName hid) (hkeyText.loosen (Nat.zero_le _))
        (htext.loosen (Nat.zero_le _))

theorem CallProperty.texts_readBack :
    ∀ calls : List CallProperty, CallProperty.areWellFormed calls = true →
      (CallProperty.texts calls).Yields fun texts =>
        List.Forall₂ (ReadsAs Member.tokens Member.form) texts (CallProperty.forms calls)
  | [] => fun _ => Written.yields_ok .nil
  | ⟨_, ⟨params, restParam, result, typeParams⟩, _⟩ :: rest => by
      intro h
      simp only [CallProperty.areWellFormed, FunctionType.isWellFormed, Bool.and_eq_true,
        List.isEmpty_iff] at h
      obtain ⟨⟨rfl, ⟨⟨-, hparams⟩, hrestParam⟩, hresult⟩, hrest⟩ := h
      refine (FunctionParam.texts_readBack 0 params hparams).bind fun paramTexts hparamTexts => ?_
      refine (FunctionParam.restTexts_readBack params.length restParam hrestParam).bind
        fun restTexts hrestTexts => ?_
      refine (result.readsBack hresult).bind fun text htext => ?_
      refine (CallProperty.texts_readBack rest hrest).bind fun texts htexts => ?_
      -- There are no type parameters, which the text would leave out.
      refine Written.yields_pure (.cons ?_ htexts)
      exact readsAs_call hparamTexts hrestTexts (htext.loosen (Nat.zero_le _))

end

/-- A text is read as a type with this syntax tree. -/
def ParsesAs (text : String) (tree : UnionType) : Prop := tokens? text.toList = some tree.tokens

theorem ParsesAs.unique {text : String} {a b : UnionType} (ha : ParsesAs text a)
    (hb : ParsesAs text b) : a = b :=
  UnionType.tokens_inj (Option.some.inj (ha.symm.trans hb))

theorem Lexical.Reads.parsesAs {text : String} {tree : UnionType} (h : Reads text tree.tokens) :
    ParsesAs text tree := by
  have hall := h [] endsWord_nil
  rw [List.append_nil, tokens?] at hall
  simpa [ParsesAs] using hall

/-- The text of an annotation is a type of the grammar. It has one syntax tree, which
says what the annotation says. -/
theorem FlowType.exists_text_parsesAs (type : FlowType) (h : type.isWellFormed = true) :
    ∃ text tree, type.text = .ok text ∧ ParsesAs text tree ∧ tree.form = type.form ∧
      ∀ other, ParsesAs text other → other = tree := by
  obtain ⟨text, htext, haccepts⟩ := type.readsBack h
  obtain ⟨tree, hreads, hform⟩ : Binding.union.Accepts text type.form :=
    haccepts.loosen (Nat.zero_le _)
  have hparses := hreads.parsesAs
  exact ⟨text, tree, htext, hparses, hform, fun _ hother => hother.unique hparses⟩

/-- A type that is referred to by its name. -/
def FlowType.named (name : String) : FlowType := .generic (.identifier ⟨{}, name, none, false⟩) []

/-- An array of an optional intersection of a union and an object type. -/
def FlowType.nestedOperators : FlowType :=
  .array (.nullable (.intersection
    [.union [.function ⟨[⟨none, none, true⟩], none, .union [.void, .null],
        [⟨"T", some (.named "A"), some (.array (.union [.named "B"]))⟩]⟩, .any],
      .object ⟨[.property ⟨{}, .string ⟨{}, "a-b", some "\"a-b\""⟩,
        .numberLiteral .zero (some "-1"), true, false⟩],
        [⟨{}, none, .string, .named "C", false⟩], []⟩]))

theorem FlowType.exists_text_parsesAs_nestedOperators :
    ∃ tree, ParsesAs ("(((<T extends A = (B)[]>(arg0?: any) => void | null) | any) & " ++
        "\x7b \"a-b\"?: -1, [key: string]: C \x7d | null | undefined)[]") tree ∧
      tree.form = nestedOperators.form := by
  have hkey : PropertyKey.isWellFormed (.string ⟨{}, "a-b", some "\"a-b\""⟩) = true := by cbv
  have hwellFormed : nestedOperators.isWellFormed = true := by
    simp only [nestedOperators, isWellFormed, areWellFormed, ObjectType.isWellFormed,
      ObjectMember.areWellFormed, hkey]
    rfl
  have htext : nestedOperators.text =
      .ok ("(((<T extends A = (B)[]>(arg0?: any) => void | null) | any) & " ++
        "\x7b \"a-b\"?: -1, [key: string]: C \x7d | null | undefined)[]") := by rfl
  obtain ⟨text, tree, hok, hparses, hform, -⟩ := nestedOperators.exists_text_parsesAs hwellFormed
  rw [htext] at hok
  injection hok with hsame
  exact ⟨tree, hsame ▸ hparses, hform⟩

end Ambient
