import Ambient.TypeText
import Ambient.Proofs.TypeGrammar.Form

namespace Ambient

open Lexical TypeGrammar

/-!
# The text of types read by the grammar

Every way in which texts are put together is a production of the grammar: if the
parts are read as syntax trees, so is the whole, and its normal form is that of
the production.
-/

section Lists

variable {α φ : Type} {tokens : α → List Token} {formOf : α → φ}

/-- A text is read as a syntax tree with this normal form. -/
def ReadsAs (tokens : α → List Token) (formOf : α → φ) (text : String) (form : φ) : Prop :=
  ∃ a, Reads text (tokens a) ∧ formOf a = form

theorem exists_of_forall_readsAs {texts : List String} {forms : List φ}
    (h : List.Forall₂ (ReadsAs tokens formOf) texts forms) :
    ∃ as : List α, List.Forall₂ Reads texts (as.map tokens) ∧ as.map formOf = forms := by
  induction h with
  | nil => exact ⟨[], .nil, rfl⟩
  | cons hfirst _ ih =>
      obtain ⟨a, hreads, rfl⟩ := hfirst
      obtain ⟨as, hall, rfl⟩ := ih
      exact ⟨a :: as, .cons hreads hall, rfl⟩

end Lists

section Delimiters

variable {texts : List String} {parts : List (List Token)}

theorem reads_commaList (h : List.Forall₂ Reads texts parts) :
    Reads (commaList texts) (separated .comma parts) :=
  reads_intercalate (closed_plain (by rfl)) (separates_plain (by rfl)) h

theorem closed_enclosed {opening closing : String} {s t : List Token} {text : String}
    {tokens : List Token} (hopening : Closed opening.toList s) (htext : Reads text tokens)
    (hclosing : Closed closing.toList t) (hends : Separates closing.toList) :
    Closed (opening ++ text ++ closing).toList (s ++ tokens ++ t) :=
  (hopening.append_reads htext).append_closed hclosing hends

theorem closed_delimited {opening closing : String} {openMark closeMark : Mark}
    (hopening : Closed opening.toList [.mark openMark])
    (hclosing : Closed closing.toList [.mark closeMark]) (hends : Separates closing.toList)
    (h : List.Forall₂ Reads texts parts) :
    Closed (opening ++ commaList texts ++ closing).toList (delimited openMark closeMark parts) :=
  closed_enclosed hopening (reads_commaList h) hclosing hends

theorem reads_generics (h : List.Forall₂ Reads texts parts) :
    Reads (generics texts) (angled parts) := by
  cases h with
  | nil => exact reads_empty
  | cons hfirst hrest =>
      exact (closed_delimited (closed_plain (by rfl)) (closed_plain (by rfl))
        (separates_plain (by rfl)) (.cons hfirst hrest)).reads

theorem keepsApart_generics (texts : List String) : KeepsApart (generics texts) := by
  rw [generics]
  split
  · exact keepsApart_empty
  · rw [String.append_assoc]
    exact (separates_plain (by rfl)).keepsApart_append _

theorem reads_braced (h : List.Forall₂ Reads texts parts) :
    Reads (braced texts) (delimited .openBrace .closeBrace parts) := by
  cases h with
  | nil => exact (closed_plain rfl : Closed "\x7b\x7d".toList _).reads
  | cons hfirst hrest =>
      exact (closed_delimited (closed_plain (by rfl)) (closed_plain (by rfl))
        (separates_plain (by rfl)) (.cons hfirst hrest)).reads

end Delimiters

/-! The operands of an operator. -/

/-- A text is read as an operand that such an operator may have. -/
def Binding.Accepts : Binding → String → TypeForm → Prop
  | .union => ReadsAs UnionType.tokens UnionType.form
  | .intersection => ReadsAs IntersectionType.tokens IntersectionType.form
  | .element => ReadsAs PostfixType.tokens PostfixType.form

theorem accepts_primary {text : String} {type : PrimaryType} (h : Reads text type.tokens) :
    Binding.element.Accepts text type.form := by
  refine ⟨⟨type, 0⟩, ?_, rfl⟩
  simpa [PostfixType.tokens, brackets, followed] using h

theorem accepts_intersection_of_element {text : String} {form : TypeForm}
    (h : Binding.element.Accepts text form) : Binding.intersection.Accepts text form := by
  obtain ⟨type, hreads, rfl⟩ := h
  refine ⟨⟨type, []⟩, ?_, rfl⟩
  simpa [IntersectionType.tokens, separated, followed] using hreads

theorem accepts_union_of_intersection {text : String} {form : TypeForm}
    (h : Binding.intersection.Accepts text form) : Binding.union.Accepts text form := by
  obtain ⟨type, hreads, rfl⟩ := h
  refine ⟨⟨type, []⟩, ?_, rfl⟩
  simpa [UnionType.tokens, separated, followed] using hreads

/-- What binds more tightly can stand where less is asked for. -/
theorem Binding.Accepts.loosen {own context : Binding} {text : String} {form : TypeForm}
    (h : own.Accepts text form) (hrank : context.rank ≤ own.rank) : context.Accepts text form := by
  cases own with
  | union =>
      cases context with
      | union => exact h
      | intersection => exact absurd hrank (by decide)
      | element => exact absurd hrank (by decide)
  | intersection =>
      cases context with
      | union => exact accepts_union_of_intersection h
      | intersection => exact h
      | element => exact absurd hrank (by decide)
  | element =>
      cases context with
      | union => exact accepts_union_of_intersection (accepts_intersection_of_element h)
      | intersection => exact accepts_intersection_of_element h
      | element => exact h

theorem accepts_enclosed {text : String} {form : TypeForm} (h : Binding.union.Accepts text form) :
    Binding.element.Accepts ("(" ++ text ++ ")") form := by
  obtain ⟨type, hreads, rfl⟩ := h
  have henclosed : Closed ("(" ++ text ++ ")").toList (PrimaryType.enclosed type).tokens :=
    closed_enclosed (closed_plain rfl) hreads (closed_plain rfl) (separates_plain rfl)
  exact accepts_primary henclosed.reads

/-- Parentheses make an operand of every type that is not one already. -/
theorem accepts_enclose {own : Option Binding} {context : Binding} {text : String}
    {form : TypeForm} (h : (own.getD .element).Accepts text form) :
    context.Accepts (enclose own context text) form := by
  have hparens : context.Accepts ("(" ++ text ++ ")") form :=
    (accepts_enclosed (h.loosen (Nat.zero_le _))).loosen (by cases context <;> decide)
  cases own with
  | none => exact h.loosen (by cases context <;> decide)
  | some own =>
      rw [enclose]
      split
      · exact hparens
      · next hrank => exact h.loosen (Nat.le_of_not_lt hrank)

/-- Texts with an operator between them are read as one list of operands. -/
theorem readsAs_join {α : Type} {tokens : α → List Token} {formOf : α → TypeForm} {mark : Mark}
    {operator : Operator} (concat : α → List α → α)
    (htokens : ∀ first others,
      tokens (concat first others) = separated mark ((first :: others).map tokens))
    (hform : ∀ first others,
      formOf (concat first others) = .join operator ((first :: others).map formOf))
    {separator : String} (hclosed : Closed separator.toList [.mark mark])
    (hends : Separates separator.toList) {texts : List String} {forms : List TypeForm}
    (hne : forms ≠ []) (h : List.Forall₂ (ReadsAs tokens formOf) texts forms) :
    ReadsAs tokens formOf (separator.intercalate texts) (.join operator forms) := by
  obtain ⟨as, hreads, rfl⟩ := exists_of_forall_readsAs h
  have hall := reads_intercalate hclosed hends hreads
  cases as with
  | nil => exact absurd rfl hne
  | cons first others =>
      rw [← htokens] at hall
      exact ⟨concat first others, hall, hform first others⟩

theorem accepts_union {texts : List String} {forms : List TypeForm} (hne : forms ≠ [])
    (h : List.Forall₂ Binding.union.Accepts texts forms) :
    Binding.union.Accepts (" | ".intercalate texts) (.join .union forms) :=
  readsAs_join UnionType.concat UnionType.tokens_concat UnionType.form_concat
    (closed_plain rfl) (separates_plain rfl) hne h

theorem accepts_intersection {texts : List String} {forms : List TypeForm} (hne : forms ≠ [])
    (h : List.Forall₂ Binding.intersection.Accepts texts forms) :
    Binding.intersection.Accepts (" & ".intercalate texts) (.join .intersection forms) :=
  readsAs_join IntersectionType.concat IntersectionType.tokens_concat
    IntersectionType.form_concat (closed_plain rfl) (separates_plain rfl) hne h

theorem accepts_array {text : String} {form : TypeForm} (h : Binding.element.Accepts text form) :
    Binding.element.Accepts (text ++ "[]") (.array form) := by
  obtain ⟨⟨base, count⟩, hreads, rfl⟩ := h
  refine ⟨⟨base, count + 1⟩, ?_, rfl⟩
  have hbrackets : Closed (text ++ "[]").toList _ :=
    hreads.append_closed (closed_plain rfl) (separates_plain rfl)
  have htokens : (PostfixType.mk base (count + 1)).tokens =
      (PostfixType.mk base count).tokens ++ plainTokens "[]".toList := by
    rw [PostfixType.tokens, PostfixType.tokens, brackets_succ, List.append_assoc]
    rfl
  rw [htokens]
  exact hbrackets.reads

/-! Primary types. -/

theorem accepts_keyword {word : String} (h : word ∈ keywordTypes) :
    Binding.element.Accepts word (.keyword word) := by
  have hreads : Reads word (PrimaryType.keyword ⟨word, h⟩).tokens :=
    reads_name (isName_of_mem_keywordTypes h)
  exact accepts_primary hreads

theorem accepts_reference {text : String} {name : TypeName} {inner : List Name}
    (hname : ReadsName text (dotted name inner)) {texts : List String} {forms : List TypeForm}
    (h : List.Forall₂ Binding.union.Accepts texts forms) :
    Binding.element.Accepts (text ++ generics texts)
      (.reference (name.val :: inner.map (·.val)) forms) := by
  obtain ⟨types, hreads, rfl⟩ := exists_of_forall_readsAs h
  have hall : Reads (text ++ generics texts) (PrimaryType.reference name inner types).tokens := by
    rw [PrimaryType.tokens, UnionType.tokenLists_eq_map]
    exact hname.reads.append (reads_generics hreads) (keepsApart_generics texts)
  have haccepts := accepts_primary hall
  rwa [PrimaryType.form, UnionType.forms_eq_map] at haccepts

theorem accepts_string (value : String) :
    Binding.element.Accepts (Text.quote value) (.string (textUnits value)) := by
  have hliteral := isLiteral_quote value
  have hreads : Reads (Text.quote value) (PrimaryType.string ⟨_, hliteral⟩).tokens :=
    reads_literal hliteral
  have haccepts := accepts_primary hreads
  rwa [PrimaryType.form, literalUnits?_quote] at haccepts

theorem accepts_number {text : String} (h : isNumeral text = true) :
    Binding.element.Accepts text (.number text) := by
  have hreads : Reads text (PrimaryType.number ⟨text, h⟩).tokens := reads_numeral h
  exact accepts_primary hreads

theorem accepts_tuple {texts : List String} {forms : List TypeForm}
    (h : List.Forall₂ Binding.union.Accepts texts forms) :
    Binding.element.Accepts ("[" ++ commaList texts ++ "]") (.tuple forms) := by
  obtain ⟨types, hreads, rfl⟩ := exists_of_forall_readsAs h
  have hall : Closed ("[" ++ commaList texts ++ "]").toList (PrimaryType.tuple types).tokens := by
    rw [PrimaryType.tokens, UnionType.tokenLists_eq_map]
    exact closed_delimited (closed_plain rfl) (closed_plain rfl) (separates_plain rfl) hreads
  have haccepts := accepts_primary hall.reads
  rwa [PrimaryType.form, UnionType.forms_eq_map] at haccepts

theorem accepts_object {texts : List String} {forms : List MemberForm}
    (h : List.Forall₂ (ReadsAs Member.tokens Member.form) texts forms) :
    Binding.element.Accepts (braced texts) (.object forms) := by
  obtain ⟨members, hreads, rfl⟩ := exists_of_forall_readsAs h
  have hall : Reads (braced texts) (PrimaryType.object members).tokens := by
    rw [PrimaryType.tokens, Member.tokenLists_eq_map]
    exact reads_braced hreads
  have haccepts := accepts_primary hall
  rwa [PrimaryType.form, Member.forms_eq_map] at haccepts

/-! Parameters, and the members of object types. -/

/-- A name that may be marked as optional, up to its annotation. -/
theorem closed_marked {name : String} {token : Token} (h : Reads name [token])
    (isOptional : Bool) :
    Closed (name ++ optionalMark isOptional ++ ": ").toList
      (token :: (questionMark isOptional ++ [.mark .colon])) := by
  have hcolon : Closed ": ".toList [.mark .colon] := closed_plain rfl
  cases isOptional with
  | false =>
      rw [optionalMark, if_neg Bool.false_ne_true, String.append_empty]
      exact h.append_closed hcolon (separates_plain rfl)
  | true =>
      have hmarked : Closed (name ++ "?").toList ([token] ++ [.mark .question]) :=
        h.append_closed (closed_plain rfl) (separates_plain rfl)
      exact hmarked.append hcolon

theorem readsAs_parameter {name : String} (hname : isBindingName name = true)
    (isOptional : Bool) {text : String} {form : TypeForm} (h : Binding.union.Accepts text form) :
    ReadsAs ValueParameter.tokens ValueParameter.form
      (name ++ optionalMark isOptional ++ ": " ++ text) ⟨name, parameterSort isOptional, form⟩ := by
  obtain ⟨type, hreads, rfl⟩ := h
  refine ⟨⟨⟨name, hname⟩, isOptional, type⟩, ?_, rfl⟩
  have hmarked := closed_marked (reads_name (isName_of_isBindingName hname)) isOptional
  simpa [ValueParameter.tokens] using hmarked.append_reads hreads

theorem closed_ellipsis : Closed "...".toList [.mark .ellipsis] :=
  closed_longMark ['.', '.'] (fun _ => rfl) closed_nil

theorem readsAs_rest {name : String} (hname : isBindingName name = true) {text : String}
    {form : TypeForm} (h : Binding.union.Accepts text form) :
    ReadsAs RestParameter.tokens RestParameter.form ("..." ++ name ++ ": " ++ text)
      ⟨name, .rest, form⟩ := by
  obtain ⟨type, hreads, rfl⟩ := h
  refine ⟨⟨⟨name, hname⟩, type⟩, ?_, rfl⟩
  have hcolon : Closed ("..." ++ name ++ ": ").toList
      ([.mark .ellipsis] ++ [.word name] ++ [.mark .colon]) :=
    closed_enclosed closed_ellipsis (reads_name (isName_of_isBindingName hname))
      (closed_plain rfl) (separates_plain rfl)
  simpa [RestParameter.tokens] using hcolon.append_reads hreads

/-- A text is read as a type behind a token, or it is empty and there is no type. -/
def ReadsAfter (lead : Token) (text : String) (form : Option TypeForm) : Prop :=
  KeepsApart text ∧ ReadsAs (UnionType.tokensAfter lead) UnionType.form? text form

theorem readsAfter_none (lead : Token) : ReadsAfter lead "" none :=
  ⟨keepsApart_empty, none, reads_empty, rfl⟩

theorem readsAfter_some {lead : Token} {word text : String} {form : TypeForm}
    (hword : Closed word.toList [lead]) (hends : Separates word.toList)
    (h : Binding.union.Accepts text form) : ReadsAfter lead (word ++ text) (some form) := by
  obtain ⟨type, hreads, rfl⟩ := h
  exact ⟨hends.keepsApart_append text, some type, hword.append_reads hreads, rfl⟩

theorem closed_extends : Closed " extends ".toList [.word "extends"] := by
  have hword : Closed ("extends" ++ " ").toList ([.word "extends"] ++ []) :=
    (reads_name (by decide)).append_closed (closed_plain rfl) (separates_plain rfl)
  exact closed_space hword

theorem closed_equals : Closed " = ".toList [.mark .equals] :=
  closed_space (closed_mark (fun _ => rfl) (closed_space closed_nil))

theorem readsAs_typeParameter {name : String} (hname : isTypeName name = true)
    {bound fallback : String} {boundForm fallbackForm : Option TypeForm}
    (hbound : ReadsAfter (.word "extends") bound boundForm)
    (hfallback : ReadsAfter (.mark .equals) fallback fallbackForm) :
    ReadsAs TypeParameter.tokens TypeParameter.form (name ++ bound ++ fallback)
      ⟨name, boundForm, fallbackForm⟩ := by
  obtain ⟨hboundApart, boundType, hboundReads, rfl⟩ := hbound
  obtain ⟨hfallbackApart, fallbackType, hfallbackReads, rfl⟩ := hfallback
  refine ⟨⟨⟨name, hname⟩, boundType, fallbackType⟩, ?_, rfl⟩
  have hall := ((reads_name (isName_of_isTypeName hname)).append hboundReads hboundApart).append
    hfallbackReads hfallbackApart
  simpa [TypeParameter.tokens] using hall

/-- Texts are read as the rest parameter of a list, if it has one. -/
def ReadsRest (texts : List String) (forms : List ParameterForm) : Prop :=
  ∃ rest : Option RestParameter, List.Forall₂ Reads texts (RestParameter.tokenLists rest) ∧
    RestParameter.forms rest = forms

theorem readsRest_none : ReadsRest [] [] := ⟨none, .nil, rfl⟩

theorem readsRest_some {text : String} {form : ParameterForm}
    (h : ReadsAs RestParameter.tokens RestParameter.form text form) :
    ReadsRest [text] [form] := by
  obtain ⟨rest, hreads, rfl⟩ := h
  exact ⟨some rest, .cons hreads .nil, rfl⟩

section Signatures

variable {typeTexts paramTexts restTexts : List String}
  {typeForms : List TypeParameterForm} {paramForms restForms : List ParameterForm}

/-- A signature up to what follows its parameters. -/
theorem closed_signature
    (htypes : List.Forall₂ (ReadsAs TypeParameter.tokens TypeParameter.form) typeTexts typeForms)
    (hparams : List.Forall₂ (ReadsAs ValueParameter.tokens ValueParameter.form) paramTexts
      paramForms)
    (hrest : ReadsRest restTexts restForms) {closing : String} {tail : List Token}
    (hclosing : Closed closing.toList (.mark .closeParen :: tail))
    (hends : Separates closing.toList) :
    ∃ signature : CallSignature, signature.form = ⟨typeForms, paramForms ++ restForms⟩ ∧
      Closed (generics typeTexts ++ "(" ++ commaList (paramTexts ++ restTexts) ++ closing).toList
        (signature.tokens ++ tail) := by
  obtain ⟨typeParams, htypeReads, rfl⟩ := exists_of_forall_readsAs htypes
  obtain ⟨params, hparamReads, rfl⟩ := exists_of_forall_readsAs hparams
  obtain ⟨rest, hrestReads, rfl⟩ := hrest
  refine ⟨⟨typeParams, params, rest⟩, by simp [CallSignature.form], ?_⟩
  have hopening : Closed "(".toList [.mark .openParen] := closed_plain rfl
  have hopen := (reads_generics htypeReads).append_closed hopening (separates_plain rfl)
  have hlist := hopen.append_reads (reads_commaList (List.rel_append hparamReads hrestReads))
  have hall := hlist.append_closed hclosing hends
  simpa [CallSignature.tokens, delimited] using hall

theorem closed_arrow : Closed ") => ".toList [.mark .closeParen, .mark .arrow] :=
  closed_mark (fun _ => rfl)
    (closed_space (closed_longMark ['>'] (fun _ => rfl) (closed_space closed_nil)))

theorem accepts_function
    (htypes : List.Forall₂ (ReadsAs TypeParameter.tokens TypeParameter.form) typeTexts typeForms)
    (hparams : List.Forall₂ (ReadsAs ValueParameter.tokens ValueParameter.form) paramTexts
      paramForms)
    (hrest : ReadsRest restTexts restForms) {result : String} {resultForm : TypeForm}
    (hresult : Binding.union.Accepts result resultForm) :
    Binding.element.Accepts ("(" ++ (generics typeTexts ++ "(" ++
        commaList (paramTexts ++ restTexts) ++ ") => " ++ result) ++ ")")
      (.function ⟨typeForms, paramForms ++ restForms⟩ resultForm) := by
  obtain ⟨signature, hform, hsignature⟩ :=
    closed_signature htypes hparams hrest closed_arrow (separates_plain rfl)
  obtain ⟨type, hreads, rfl⟩ := hresult
  have hopening : Closed "(".toList [.mark .openParen] := closed_plain rfl
  have hclosing : Closed ")".toList [.mark .closeParen] := closed_plain rfl
  have hall := closed_enclosed hopening (hsignature.append_reads hreads) hclosing
    (separates_plain rfl)
  have htokens : (PrimaryType.function signature type).tokens = [.mark .openParen] ++
      (signature.tokens ++ [.mark .arrow] ++ type.tokens) ++ [.mark .closeParen] := by
    simp [PrimaryType.tokens]
  have haccepts := accepts_primary (htokens ▸ hall.reads)
  rwa [PrimaryType.form, hform] at haccepts

theorem readsAs_call
    (hparams : List.Forall₂ (ReadsAs ValueParameter.tokens ValueParameter.form) paramTexts
      paramForms)
    (hrest : ReadsRest restTexts restForms) {result : String} {resultForm : TypeForm}
    (hresult : Binding.union.Accepts result resultForm) :
    ReadsAs Member.tokens Member.form
      ("(" ++ commaList (paramTexts ++ restTexts) ++ "): " ++ result)
      (.call ⟨[], paramForms ++ restForms⟩ resultForm) := by
  have hclosing : Closed "): ".toList [.mark .closeParen, .mark .colon] := closed_plain rfl
  obtain ⟨signature, hform, hsignature⟩ :=
    closed_signature .nil hparams hrest hclosing (separates_plain rfl)
  obtain ⟨type, hreads, rfl⟩ := hresult
  refine ⟨.call signature type, ?_, by rw [Member.form, hform]⟩
  simpa [Member.tokens, generics] using hsignature.append_reads hreads

end Signatures

theorem readsAs_property {name : String} {memberName : MemberName}
    (hname : Reads name [memberName.token]) (isOptional : Bool) {text : String} {form : TypeForm}
    (h : Binding.union.Accepts text form) :
    ReadsAs Member.tokens Member.form (name ++ optionalMark isOptional ++ ": " ++ text)
      (.property memberName.form isOptional form) := by
  obtain ⟨type, hreads, rfl⟩ := h
  refine ⟨.property memberName isOptional type, ?_, rfl⟩
  simpa [Member.tokens] using (closed_marked hname isOptional).append_reads hreads

theorem readsAs_index {name : String} (hname : isBindingName name = true)
    {keyText text : String} {keyForm form : TypeForm}
    (hkey : Binding.union.Accepts keyText keyForm) (h : Binding.union.Accepts text form) :
    ReadsAs Member.tokens Member.form ("[" ++ name ++ ": " ++ keyText ++ "]: " ++ text)
      (.index name keyForm form) := by
  obtain ⟨key, hkeyReads, rfl⟩ := hkey
  obtain ⟨type, hreads, rfl⟩ := h
  refine ⟨.index ⟨name, hname⟩ key type, ?_, rfl⟩
  have hopening : Closed "[".toList [.mark .openBracket] := closed_plain rfl
  have hcolon : Closed ": ".toList [.mark .colon] := closed_plain rfl
  have hclosing : Closed "]: ".toList [.mark .closeBracket, .mark .colon] := closed_plain rfl
  have hnamed := closed_enclosed hopening (reads_name (isName_of_isBindingName hname)) hcolon
    (separates_plain rfl)
  have hkeyed := closed_enclosed hnamed hkeyReads hclosing (separates_plain rfl)
  simpa [Member.tokens] using hkeyed.append_reads hreads

end Ambient
