import Ambient.Proofs.Layout.Plain
import Ambient.Proofs.Number.Shortest
import Ambient.Proofs.Text.Braces
import Ambient.Proofs.TypeText.Written

namespace Ambient

open Text Lexical

/-!
# Types on one line

The text of a plain type stands on one line and closes the braces it opens.
-/

theorem chars_of_isPlain {text : String} (h : isPlain text = true) :
    ∀ c ∈ text.toList, c ≠ '\n' ∧ c ≠ '{' ∧ c ≠ '}' := by
  rw [isPlain, Bool.and_eq_true, List.all_eq_true] at h
  intro c hc
  have hchar := h.1 c hc
  simp only [Bool.and_eq_true, bne_iff_ne, ne_eq] at hchar
  exact ⟨hchar.2, hchar.1⟩

theorem isInline_of_isPlain {text : String} (h : isPlain text = true) : IsInline text :=
  isInline_of_forall (chars_of_isPlain h)

theorem leads_of_isPlain {text : String} (h : isPlain text = true) : Leads text := by
  intro c hc
  have hclosing := (chars_of_isPlain h c (List.mem_of_head? hc)).2.2
  rw [isPlain, Bool.and_eq_true, Option.mem_def.mp hc] at h
  exact ⟨by simpa using h.2, hclosing⟩

theorem isPlain_of_isPlainName {text : String} (h : isPlainName text = true) :
    isPlain text = true := by
  rw [isPlainName, Bool.and_eq_true] at h
  exact h.1

theorem isInline_of_isPlainName {text : String} (h : isPlainName text = true) : IsInline text :=
  isInline_of_isPlain (isPlain_of_isPlainName h)

theorem isInline_commaList {texts : List String} (h : ∀ text ∈ texts, IsInline text) :
    IsInline (commaList texts) := IsInline.intercalate (by decide) h

theorem isInline_generics {texts : List String} (h : ∀ text ∈ texts, IsInline text) :
    IsInline (generics texts) := by
  unfold generics
  split
  · decide
  · have hlist := isInline_commaList h
    exact (IsInline.append (by decide) hlist).append (by decide)

theorem isInline_braced {texts : List String} (h : ∀ text ∈ texts, IsInline text) :
    IsInline (braced texts) := by
  unfold braced
  split
  · decide
  · have hinside := (IsInline.append (a := " ") (by decide) (isInline_commaList h)).append
      (b := " ") (by decide)
    have htext : "\x7b " ++ commaList texts ++ " \x7d" =
        "\x7b" ++ (" " ++ commaList texts ++ " ") ++ "\x7d" := by
      apply String.toList_inj.mp
      simp
    rw [htext]
    exact hinside.braces

theorem isInline_optionalMark (isOptional : Bool) : IsInline (optionalMark isOptional) := by
  cases isOptional <;> decide

theorem isInline_enclose (own : Option Binding) (context : Binding) {text : String}
    (h : IsInline text) : IsInline (enclose own context text) := by
  unfold enclose
  split
  · split
    · exact (IsInline.append (by decide) h).append (by decide)
    · exact h
  · exact h

theorem isInline_quote {value : String} (h : isPlain value = true) : IsInline (quote value) := by
  refine isInline_of_forall fun c hc => ?_
  rw [toList_quote] at hc
  simp only [List.mem_cons, List.mem_append, List.mem_flatMap, List.not_mem_nil, or_false] at hc
  rcases hc with rfl | ⟨d, hd, hc⟩ | rfl
  · decide
  · unfold quotedChar at hc
    split at hc
    all_goals simp only [List.mem_cons, List.not_mem_nil, or_false] at hc
    case h_6 => exact hc ▸ chars_of_isPlain h d hd
    all_goals
      rcases hc with rfl | rfl
      all_goals decide
  · decide

theorem isNumeralPart_inline {previous c : Char} (h : isNumeralPart previous c = true) :
    c ≠ '\n' ∧ c ≠ '{' ∧ c ≠ '}' := by
  have hother : ∀ d : Char, isNamePart d = false → isSign d = false → d ≠ '.' → c ≠ d := by
    rintro d hname hsign hpoint rfl
    simp [isNumeralPart, hname, hsign, hpoint] at h
  exact ⟨hother '\n' (by decide) (by decide) (by decide),
    hother '{' (by decide) (by decide) (by decide), hother '}' (by decide) (by decide) (by decide)⟩

theorem chars_of_numeralLength {previous : Char} {cs : List Char}
    (h : numeralLength previous cs = cs.length) :
    ∀ c ∈ cs, c ≠ '\n' ∧ c ≠ '{' ∧ c ≠ '}' := by
  induction cs generalizing previous with
  | nil => simp
  | cons c cs ih =>
      rw [numeralLength] at h
      by_cases hc : isNumeralPart previous c = true
      · rw [if_pos hc, List.length_cons] at h
        have hrest : numeralLength c cs = cs.length := by omega
        intro d hd
        rcases List.mem_cons.mp hd with rfl | hd
        · exact isNumeralPart_inline hc
        · exact ih hrest d hd
      · rw [if_neg hc] at h
        cases h

theorem isInline_of_isNumeral {text : String} (h : isNumeral text = true) : IsInline text := by
  unfold isNumeral at h
  cases htext : text.toList with
  | nil =>
      rw [htext] at h
      cases h
  | cons c rest =>
      rw [htext] at h
      simp only [Bool.and_eq_true, decide_eq_true_eq] at h
      obtain ⟨⟨hstart, hlength⟩, -⟩ := h
      have hfirst : c ≠ '\n' ∧ c ≠ '{' ∧ c ≠ '}' := by
        refine ⟨?_, ?_, ?_⟩
        all_goals
          rintro rfl
          simp [startsNumeral] at hstart
      refine isInline_of_forall fun d hd => ?_
      rw [htext] at hd
      rcases List.mem_cons.mp hd with rfl | hd
      · exact hfirst
      · exact chars_of_numeralLength hlength d hd

theorem isInline_numberText (value : Double) {raw : Option String}
    (h : raw.all isPlain = true) : IsInline (numberText value raw) := by
  cases raw with
  | none => exact isInline_of_isNumeral value.isNumeral_text
  | some raw => exact isInline_of_isPlain h

theorem TypeRef.text_inline : ∀ name : TypeRef, name.isPlain = true →
    name.text.Ensures IsInline
  | .identifier _ => fun h => Written.ensures_ok (isInline_of_isPlainName h)
  | .qualified qualification id => by
      intro h
      rw [TypeRef.isPlain, Bool.and_eq_true] at h
      refine (qualification.text_inline h.1).bind fun text htext => ?_
      exact Written.ensures_pure
        ((htext.append (by decide)).append (isInline_of_isPlainName h.2))
  | .unsupported _ => fun _ => Written.ensures_error

theorem isWord_of_isPlain {text : String} (h : isPlain text = true) : IsWord text :=
  ⟨isInline_of_isPlain h, leads_of_isPlain h⟩

theorem isWord_of_isPlainName {text : String} (h : isPlainName text = true) : IsWord text :=
  isWord_of_isPlain (isPlain_of_isPlainName h)

theorem StringLiteral.isWord_text {literal : StringLiteral} (h : literal.isPlain = true) :
    IsWord literal.text := by
  rw [StringLiteral.isPlain, Bool.and_eq_true] at h
  cases hraw : literal.raw with
  | none =>
      have hquoted : literal.text = "'" ++ literal.value ++ "'" := by
        simp [StringLiteral.text, hraw]
      have hquote : IsWord "'" := by decide
      have hword := isWord_of_isPlain h.1
      rw [hquoted]
      exact (hquote.append hword).append hquote
  | some raw =>
      have htext : literal.text = raw := by simp [StringLiteral.text, hraw]
      rw [htext]
      exact isWord_of_isPlain (by simpa [hraw] using h.2)

theorem PropertyKey.written_inline : ∀ key : PropertyKey, key.isPlain = true →
    key.written.Ensures IsInline
  | .identifier _ => fun h => Written.ensures_ok (isInline_of_isPlainName h)
  | .string _ => fun h => Written.ensures_ok (StringLiteral.isWord_text h).isInline
  | .unsupported _ => fun _ => Written.ensures_error

theorem isInline_nat (n : Nat) : IsInline (toString n) := by
  refine isInline_of_forall fun c hc => ?_
  have hdigit : c.isDigit = true := by
    rw [Nat.toString_eq_repr, Nat.toList_repr] at hc
    exact Nat.isDigit_of_mem_toDigits (by decide) (by decide) hc
  refine ⟨?_, ?_, ?_⟩
  all_goals
    rintro rfl
    cases hdigit

theorem isInline_paramName (index : Nat) {id : Option Identifier} (h : isPlainName? id = true) :
    IsInline (paramName index id) := by
  cases id with
  | none => exact IsInline.append (by decide) (isInline_nat index)
  | some id => exact isInline_of_isPlainName h

theorem isInline_indexName {id : Option Identifier} (h : isPlainName? id = true) :
    IsInline (indexName id) := by
  cases id with
  | none => decide
  | some id => exact isInline_of_isPlainName h

/-- Texts that each stand on one line. -/
def AllInline (texts : List String) : Prop := ∀ text ∈ texts, IsInline text

namespace AllInline

theorem nil : AllInline [] := fun _ h => by cases h

theorem cons {text : String} {texts : List String} (h : IsInline text) (hs : AllInline texts) :
    AllInline (text :: texts) := List.forall_mem_cons.mpr ⟨h, hs⟩

theorem append {a b : List String} (ha : AllInline a) (hb : AllInline b) : AllInline (a ++ b) :=
  List.forall_mem_append.mpr ⟨ha, hb⟩

end AllInline

mutual

/-- A plain type is written on one line. -/
theorem FlowType.text_inline : ∀ type : FlowType, type.isPlain = true →
    type.text.Ensures IsInline
  | .generic name arguments => by
      intro h
      rw [FlowType.isPlain, Bool.and_eq_true] at h
      refine (name.text_inline h.1).bind fun text htext => ?_
      refine (FlowType.texts_inline arguments h.2).bind fun texts htexts => ?_
      exact Written.ensures_pure (htext.append (isInline_generics htexts))
  | .void => fun _ => Written.ensures_ok (by decide)
  | .number => fun _ => Written.ensures_ok (by decide)
  | .string => fun _ => Written.ensures_ok (by decide)
  | .boolean => fun _ => Written.ensures_ok (by decide)
  | .any => fun _ => Written.ensures_ok (by decide)
  | .null => fun _ => Written.ensures_ok (by decide)
  | .union types => fun h =>
    (FlowType.operands_inline .union types h).bind fun _ htexts =>
      Written.ensures_pure (IsInline.intercalate (by decide) htexts)
  | .intersection types => fun h =>
    (FlowType.operands_inline .intersection types h).bind fun _ htexts =>
      Written.ensures_pure (IsInline.intercalate (by decide) htexts)
  | .function type => fun h =>
    (type.text_inline h).bind fun _ htext =>
      Written.ensures_pure ((IsInline.append (by decide) htext).append (by decide))
  | .array element => fun h =>
    (element.text_inline h).bind fun _ htext =>
      Written.ensures_pure ((isInline_enclose _ _ htext).append (by decide))
  | .tuple elements => fun h =>
    (FlowType.texts_inline elements h).bind fun _ htexts =>
      Written.ensures_pure
        ((IsInline.append (by decide) (isInline_commaList htexts)).append (by decide))
  | .object type => fun h => type.text_inline h
  | .nullable inner => fun h =>
    (inner.text_inline h).bind fun _ htext =>
      Written.ensures_pure ((isInline_enclose _ _ htext).append (by decide))
  | .stringLiteral _ => fun h => Written.ensures_ok (isInline_quote h)
  | .numberLiteral value _ => fun h => Written.ensures_ok (isInline_numberText value h)
  | .booleanLiteral value => fun _ => Written.ensures_ok (by cases value <;> decide)
  | .unsupported _ => fun _ => Written.ensures_error

theorem FlowType.texts_inline : ∀ types : List FlowType, FlowType.arePlain types = true →
    (FlowType.texts types).Ensures AllInline
  | [] => fun _ => Written.ensures_ok .nil
  | type :: rest => by
      intro h
      rw [FlowType.arePlain, Bool.and_eq_true] at h
      refine (type.text_inline h.1).bind fun text htext => ?_
      refine (FlowType.texts_inline rest h.2).bind fun texts htexts => ?_
      exact Written.ensures_pure (.cons htext htexts)

theorem FlowType.operands_inline (context : Binding) :
    ∀ types : List FlowType, FlowType.arePlain types = true →
      (FlowType.operands context types).Ensures AllInline
  | [] => fun _ => Written.ensures_ok .nil
  | type :: rest => by
      intro h
      rw [FlowType.arePlain, Bool.and_eq_true] at h
      refine (type.text_inline h.1).bind fun text htext => ?_
      refine (FlowType.operands_inline context rest h.2).bind fun texts htexts => ?_
      exact Written.ensures_pure (.cons (isInline_enclose _ _ htext) htexts)

theorem FlowType.textOrAny_inline :
    ∀ type : Option FlowType, FlowType.isPlain? type = true →
      (FlowType.textOrAny type).Ensures IsInline
  | none => fun _ => Written.ensures_ok (by decide)
  | some type => fun h => type.text_inline h

theorem FlowType.textAfter_inline {word : String} (hword : IsInline word) :
    ∀ type : Option FlowType, FlowType.isPlain? type = true →
      (FlowType.textAfter word type).Ensures IsInline
  | none => fun _ => Written.ensures_ok (by decide)
  | some type => fun h =>
    (type.text_inline h).bind fun _ htext => Written.ensures_pure (hword.append htext)

theorem FunctionType.text_inline : ∀ type : FunctionType, type.isPlain = true →
    type.text.Ensures IsInline
  | ⟨params, rest, result, typeParams⟩ => by
      intro h
      simp only [FunctionType.isPlain, Bool.and_eq_true] at h
      obtain ⟨⟨⟨hparams, hrest⟩, hresult⟩, htypeParams⟩ := h
      refine (TypeParam.texts_inline typeParams htypeParams).bind fun typeTexts htypeTexts => ?_
      refine (FunctionParam.texts_inline 0 params hparams).bind fun texts htexts => ?_
      refine (FunctionParam.restTexts_inline params.length rest hrest).bind
        fun restTexts hrestTexts => ?_
      refine (result.text_inline hresult).bind fun resultText hresultText => ?_
      have hlist := isInline_commaList (htexts.append hrestTexts)
      have hopen := (isInline_generics htypeTexts).append (b := "(") (by decide)
      exact Written.ensures_pure
        (((hopen.append hlist).append (by decide)).append hresultText)

theorem FunctionParam.texts_inline (index : Nat) :
    ∀ params : List FunctionParam, FunctionParam.arePlain params = true →
      (FunctionParam.texts index params).Ensures AllInline
  | [] => fun _ => Written.ensures_ok .nil
  | param :: rest => by
      intro h
      rw [FunctionParam.arePlain, Bool.and_eq_true] at h
      refine (param.text_inline index h.1).bind fun text htext => ?_
      refine (FunctionParam.texts_inline (index + 1) rest h.2).bind fun texts htexts => ?_
      exact Written.ensures_pure (.cons htext htexts)

theorem FunctionParam.restTexts_inline (index : Nat) :
    ∀ param : Option FunctionParam, FunctionParam.isPlain? param = true →
      (FunctionParam.restTexts index param).Ensures AllInline
  | none => fun _ => Written.ensures_ok .nil
  | some param => fun h =>
    (param.restText_inline index h).bind fun _ htext =>
      Written.ensures_pure (.cons htext .nil)

theorem FunctionParam.text_inline (index : Nat) :
    ∀ param : FunctionParam, param.isPlain = true → (param.text index).Ensures IsInline
  | ⟨name, type, isOptional⟩ => by
      intro h
      rw [FunctionParam.isPlain, Bool.and_eq_true] at h
      refine (FlowType.textOrAny_inline type h.2).bind fun text htext => ?_
      have hname := (isInline_paramName index h.1).append (isInline_optionalMark isOptional)
      exact Written.ensures_pure ((hname.append (by decide)).append htext)

theorem FunctionParam.restText_inline (index : Nat) :
    ∀ param : FunctionParam, param.isPlain = true → (param.restText index).Ensures IsInline
  | ⟨name, type, isOptional⟩ => by
      intro h
      rw [FunctionParam.isPlain, Bool.and_eq_true] at h
      refine (FlowType.textOrAny_inline type h.2).bind fun text htext => ?_
      have hname := IsInline.append (a := "...") (by decide) (isInline_paramName index h.1)
      exact Written.ensures_pure ((hname.append (by decide)).append htext)

theorem TypeParam.texts_inline : ∀ params : List TypeParam, TypeParam.arePlain params = true →
    (TypeParam.texts params).Ensures AllInline
  | [] => fun _ => Written.ensures_ok .nil
  | param :: rest => by
      intro h
      rw [TypeParam.arePlain, Bool.and_eq_true] at h
      refine (param.text_inline h.1).bind fun text htext => ?_
      refine (TypeParam.texts_inline rest h.2).bind fun texts htexts => ?_
      exact Written.ensures_pure (.cons htext htexts)

theorem TypeParam.text_inline : ∀ param : TypeParam, param.isPlain = true →
    param.text.Ensures IsInline
  | ⟨name, bound, fallback⟩ => by
      intro h
      simp only [TypeParam.isPlain, Bool.and_eq_true] at h
      refine (FlowType.textAfter_inline (by decide) bound h.1.2).bind fun text htext => ?_
      refine (FlowType.textAfter_inline (by decide) fallback h.2).bind fun text' htext' => ?_
      exact Written.ensures_pure (((isInline_of_isPlainName h.1.1).append htext).append htext')

theorem ObjectType.text_inline : ∀ type : ObjectType, type.isPlain = true →
    type.text.Ensures IsInline
  | ⟨properties, indexers, calls⟩ => by
      intro h
      simp only [ObjectType.isPlain, Bool.and_eq_true] at h
      refine (ObjectMember.texts_inline properties h.1.1).bind fun texts htexts => ?_
      refine (Indexer.texts_inline indexers h.1.2).bind fun indexTexts hindexTexts => ?_
      refine (CallProperty.texts_inline calls h.2).bind fun callTexts hcallTexts => ?_
      exact Written.ensures_pure
        (isInline_braced ((htexts.append hindexTexts).append hcallTexts))

theorem ObjectMember.texts_inline :
    ∀ members : List ObjectMember, ObjectMember.arePlain members = true →
      (ObjectMember.texts members).Ensures AllInline
  | [] => fun _ => Written.ensures_ok .nil
  | .property ⟨_, key, value, isOptional, _⟩ :: rest => by
      intro h
      simp only [ObjectMember.arePlain, Bool.and_eq_true] at h
      refine (key.written_inline h.1.1).bind fun name hname => ?_
      refine (value.text_inline h.1.2).bind fun text htext => ?_
      refine (ObjectMember.texts_inline rest h.2).bind fun texts htexts => ?_
      have hmarked := hname.append (isInline_optionalMark isOptional)
      exact Written.ensures_pure (.cons ((hmarked.append (by decide)).append htext) htexts)
  | .unsupported _ :: _ => fun _ => Written.ensures_error

theorem Indexer.texts_inline : ∀ indexers : List Indexer, Indexer.arePlain indexers = true →
    (Indexer.texts indexers).Ensures AllInline
  | [] => fun _ => Written.ensures_ok .nil
  | ⟨_, id, key, value, _⟩ :: rest => by
      intro h
      simp only [Indexer.arePlain, Bool.and_eq_true] at h
      refine (key.text_inline h.1.1.2).bind fun keyText hkey => ?_
      refine (value.text_inline h.1.2).bind fun valueText hvalue => ?_
      refine (Indexer.texts_inline rest h.2).bind fun texts htexts => ?_
      have hname := IsInline.append (a := "[") (by decide) (isInline_indexName h.1.1.1)
      have hindex := ((hname.append (b := ": ") (by decide)).append hkey).append
        (b := "]: ") (by decide)
      exact Written.ensures_pure (.cons (hindex.append hvalue) htexts)

theorem CallProperty.texts_inline :
    ∀ calls : List CallProperty, CallProperty.arePlain calls = true →
      (CallProperty.texts calls).Ensures AllInline
  | [] => fun _ => Written.ensures_ok .nil
  | ⟨_, ⟨params, restParam, result, _⟩, _⟩ :: rest => by
      intro h
      simp only [CallProperty.arePlain, FunctionType.isPlain, Bool.and_eq_true] at h
      obtain ⟨⟨⟨⟨hparams, hrest⟩, hresult⟩, -⟩, hcalls⟩ := h
      refine (FunctionParam.texts_inline 0 params hparams).bind fun texts htexts => ?_
      refine (FunctionParam.restTexts_inline params.length restParam hrest).bind
        fun restTexts hrestTexts => ?_
      refine (result.text_inline hresult).bind fun resultText hresultText => ?_
      refine (CallProperty.texts_inline rest hcalls).bind fun callTexts hcallTexts => ?_
      have hlist := isInline_commaList (htexts.append hrestTexts)
      have hopen := IsInline.append (a := "(") (by decide) hlist
      exact Written.ensures_pure
        (.cons ((hopen.append (b := "): ") (by decide)).append hresultText) hcallTexts)

end

end Ambient
