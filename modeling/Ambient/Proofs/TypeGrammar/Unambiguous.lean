import Ambient.Proofs.TypeGrammar.Determined

namespace Ambient.TypeGrammar

open Lexical

/-!
# Syntax trees are determined by their tokens

The first token of a primary type tells its kind, except that a parenthesis may
open a type or a function. What follows the parenthesis decides: no type begins
with a list of parameters.
-/

/-- What goes on with a primary type that refers to a name. -/
def primaryStops : List Token := [.mark .dot, .mark .openAngle]

def postfixStops : List Token := .mark .openBracket :: primaryStops

def intersectionStops : List Token := .mark .ampersand :: postfixStops

def unionStops : List Token := .mark .bar :: intersectionStops

def typeParameterStops : List Token := .mark .equals :: .word "extends" :: unionStops

inductive Kind
  | keyword
  | reference
  | string
  | number
  | tuple
  | object
  | enclosed
  | function

def PrimaryType.kind : PrimaryType → Kind
  | .keyword _ => .keyword
  | .reference .. => .reference
  | .string _ => .string
  | .number _ => .number
  | .tuple _ => .tuple
  | .object _ => .object
  | .enclosed _ => .enclosed
  | .function .. => .function

/-- Whether what stands behind a parenthesis are the parameters of a function. -/
def startsParameters : List Token → Bool
  | .mark .closeParen :: _ => true
  | .mark .ellipsis :: _ => true
  | .word _ :: .mark .colon :: _ => true
  | .word _ :: .mark .question :: _ => true
  | _ => false

def startsSignature : List Token → Bool
  | .mark .openAngle :: _ => true
  | .mark .openParen :: rest => startsParameters rest
  | _ => false

/-- The kind of the primary type in front. -/
def leadingKind? : List Token → Option Kind
  | .word text :: _ => some (if text ∈ keywordTypes then .keyword else .reference)
  | .string _ :: _ => some .string
  | .number _ :: _ => some .number
  | .mark .openBracket :: _ => some .tuple
  | .mark .openBrace :: _ => some .object
  | .mark .openParen :: rest => some (if startsSignature rest then .function else .enclosed)
  | _ => none

/-- What can stand behind a name that is not the name of a parameter. -/
def NoParameter (rest : List Token) : Prop := Ends [.mark .colon, .mark .question] rest

/-- The primary type that a type begins with. -/
def UnionType.lead (type : UnionType) : PrimaryType := type.first.first.base

theorem UnionType.tokens_eq_lead (type : UnionType) :
    ∃ tail, NoParameter tail ∧ type.tokens = type.lead.tokens ++ tail := by
  obtain ⟨⟨⟨base, arrays⟩, factors⟩, alternatives⟩ := type
  refine ⟨brackets arrays ++ (followed .ampersand (factors.map PostfixType.tokens) ++
    followed .bar (alternatives.map IntersectionType.tokens)), ?_, ?_⟩
  · have hbrackets : NoParameter (brackets arrays) := ends_followed (by simp) _
    exact hbrackets.append ((ends_followed (by simp) _).append (ends_followed (by simp) _))
  · simp [UnionType.tokens, IntersectionType.tokens, PostfixType.tokens, separated, lead]

/-- Marks that no type begins with. -/
def isClosing (mark : Mark) : Bool :=
  mark ∉ [Mark.openParen, .openBracket, .openBrace]

theorem PrimaryType.tokens_ne {mark : Mark} (hmark : isClosing mark = true) (type : PrimaryType)
    (r s : List Token) : type.tokens ++ r ≠ .mark mark :: s := by
  intro h
  cases type with
  | _ =>
      injection h with hhead _
      cases hhead <;> cases hmark

theorem UnionType.tokens_ne {mark : Mark} (hmark : isClosing mark = true) (type : UnionType)
    (r s : List Token) : type.tokens ++ r ≠ .mark mark :: s := by
  obtain ⟨tail, -, htokens⟩ := type.tokens_eq_lead
  rw [htokens, List.append_assoc]
  exact type.lead.tokens_ne hmark _ s

theorem startsParameters_word {text : String} {rest : List Token} (h : NoParameter rest) :
    startsParameters (.word text :: rest) = false := by
  cases rest with
  | nil => rfl
  | cons token rest =>
      have htoken := ends_cons.mp h
      cases token with
      | mark mark => cases mark <;> first | rfl | simp at htoken
      | _ => rfl

theorem PrimaryType.startsParameters_eq_false (type : PrimaryType) {rest : List Token}
    (h : NoParameter rest) : startsParameters (type.tokens ++ rest) = false := by
  cases type with
  | keyword word => exact startsParameters_word h
  | reference name inner arguments =>
      have hrest : NoParameter (followed .dot (inner.map fun name => [.word name]) ++
          (angled (UnionType.tokenLists arguments) ++ rest)) := by
        refine (ends_followed (by simp) _).append (Ends.append ?_ h)
        rw [angled]
        split
        · exact ends_nil _
        · simp [delimited]
      simpa [tokens, dotted, separated] using startsParameters_word hrest
  | _ => rfl

theorem UnionType.startsParameters_eq_false (type : UnionType) {rest : List Token}
    (h : NoParameter rest) : startsParameters (type.tokens ++ rest) = false := by
  obtain ⟨tail, htail, htokens⟩ := type.tokens_eq_lead
  rw [htokens, List.append_assoc]
  exact type.lead.startsParameters_eq_false (htail.append h)

/-- The parameters of a function come first in a signature. -/
theorem CallSignature.startsSignature_tokens (signature : CallSignature) (rest : List Token) :
    startsSignature (signature.tokens ++ rest) = true := by
  obtain ⟨typeParams, params, last⟩ := signature
  cases typeParams with
  | cons param typeParams => rfl
  | nil =>
      cases params with
      | nil =>
          cases last with
          | none => rfl
          | some last =>
              obtain ⟨name, type⟩ := last
              rfl
      | cons param params =>
          obtain ⟨name, isOptional, type⟩ := param
          cases isOptional with
          | false => rfl
          | true => rfl

theorem CallSignature.startsParameters_eq_false (signature : CallSignature) (rest : List Token) :
    startsParameters (signature.tokens ++ rest) = false := by
  obtain ⟨typeParams, params, last⟩ := signature
  cases typeParams with
  | cons param typeParams => rfl
  | nil => rfl

theorem PrimaryType.startsSignature_eq_false (type : PrimaryType) (rest : List Token) :
    startsSignature (type.tokens ++ rest) = false := by
  cases type with
  -- What stands behind a second parenthesis is a type, and no parameters.
  | enclosed inner =>
      have hrest : NoParameter (.mark .closeParen :: rest) := ends_cons.mpr (by simp)
      have h := inner.startsParameters_eq_false hrest
      simpa [tokens, startsSignature] using h
  | function signature result =>
      simpa [tokens, startsSignature] using signature.startsParameters_eq_false _
  | _ => rfl

theorem UnionType.startsSignature_eq_false (type : UnionType) (rest : List Token) :
    startsSignature (type.tokens ++ rest) = false := by
  obtain ⟨tail, -, htokens⟩ := type.tokens_eq_lead
  rw [htokens, List.append_assoc]
  exact type.lead.startsSignature_eq_false _

theorem PrimaryType.leadingKind?_tokens (type : PrimaryType) (rest : List Token) :
    leadingKind? (type.tokens ++ rest) = some type.kind := by
  cases type with
  | keyword word =>
      simp [tokens, leadingKind?, kind, word.property]
  | reference name inner arguments =>
      simp [tokens, dotted, separated, leadingKind?, kind,
        not_mem_keywordTypes_of_isTypeName name.property]
  | string literal => rfl
  | number numeral => rfl
  | tuple elements => rfl
  | object members => rfl
  | enclosed inner =>
      simp [tokens, leadingKind?, kind, inner.startsSignature_eq_false]
  | function signature result =>
      simp [tokens, leadingKind?, kind, signature.startsSignature_tokens]

theorem PrimaryType.kind_eq {a b : PrimaryType} {r s : List Token}
    (h : a.tokens ++ r = b.tokens ++ s) : a.kind = b.kind := by
  have hkind := a.leadingKind?_tokens r
  rw [h, b.leadingKind?_tokens s] at hkind
  exact (Option.some.inj hkind).symm

/-- The operands of an operator as they come. -/
theorem UnionType.determined_of {first : IntersectionType} {others : List IntersectionType}
    (hfirst : Determined IntersectionType.tokens intersectionStops first)
    (hothers : ∀ type ∈ others, Determined IntersectionType.tokens intersectionStops type) :
    Determined UnionType.tokens unionStops ⟨first, others⟩ := by
  rintro ⟨first', others'⟩ r s hr hs h
  simp only [tokens, IntersectionType.tokenLists_eq_map] at h
  obtain ⟨heq, hrest⟩ := chain_determined (by decide) hfirst hothers (first', others') r s hr hs h
  cases heq
  exact ⟨rfl, hrest⟩

theorem IntersectionType.determined_of {first : PostfixType} {others : List PostfixType}
    (hfirst : Determined PostfixType.tokens postfixStops first)
    (hothers : ∀ type ∈ others, Determined PostfixType.tokens postfixStops type) :
    Determined IntersectionType.tokens intersectionStops ⟨first, others⟩ := by
  rintro ⟨first', others'⟩ r s hr hs h
  simp only [tokens, PostfixType.tokenLists_eq_map] at h
  obtain ⟨heq, hrest⟩ := chain_determined (by decide) hfirst hothers (first', others') r s hr hs h
  cases heq
  exact ⟨rfl, hrest⟩

theorem PostfixType.determined_of {base : PrimaryType} {arrays : Nat}
    (hbase : Determined PrimaryType.tokens primaryStops base) :
    Determined PostfixType.tokens postfixStops ⟨base, arrays⟩ := by
  rintro ⟨base', arrays'⟩ r s hr hs h
  simp only [tokens, List.append_assoc] at h
  have hbrackets : ∀ count, Ends primaryStops (brackets count) := fun _ =>
    ends_followed (by decide) _
  have hstops : ∀ token ∈ primaryStops, token ∈ postfixStops := by decide
  obtain ⟨rfl, hrest⟩ := hbase base' _ _ ((hbrackets arrays).append (hr.mono hstops))
    ((hbrackets arrays').append (hs.mono hstops)) h
  obtain ⟨rfl, rfl⟩ := brackets_determined arrays arrays' r s (hr.mono (by decide))
    (hs.mono (by decide)) hrest
  exact ⟨rfl, rfl⟩

/-- A type that a token introduces need not be there. -/
theorem UnionType.tokensAfter_determined {lead : Token} {type : Option UnionType}
    (htype : ∀ type' ∈ type, Determined UnionType.tokens unionStops type') :
    Determined (UnionType.tokensAfter lead) (lead :: unionStops) type := by
  intro other r s hr hs h
  cases type with
  | none =>
      cases other with
      | none => exact ⟨rfl, h⟩
      | some other => exact absurd h (hr.ne_cons List.mem_cons_self)
  | some type =>
      cases other with
      | none => exact absurd h.symm (hs.ne_cons List.mem_cons_self)
      | some other =>
          injection h with _ h
          have hstops : ∀ token ∈ unionStops, token ∈ lead :: unionStops := by
            intro token htoken
            exact List.mem_cons_of_mem _ htoken
          obtain ⟨rfl, rfl⟩ := htype type rfl other r s (hr.mono hstops) (hs.mono hstops) h
          exact ⟨rfl, rfl⟩

theorem TypeParameter.determined_of {name : TypeName} {bound fallback : Option UnionType}
    (hbound : ∀ type ∈ bound, Determined UnionType.tokens unionStops type)
    (hfallback : ∀ type ∈ fallback, Determined UnionType.tokens unionStops type) :
    Determined TypeParameter.tokens typeParameterStops ⟨name, bound, fallback⟩ := by
  rintro ⟨name', bound', fallback'⟩ r s hr hs h
  simp only [tokens, List.cons_append, List.append_assoc] at h
  injection h with hname h
  injection hname with hname
  have hends : ∀ (type : Option UnionType) (rest : List Token), Ends typeParameterStops rest →
      Ends (.word "extends" :: unionStops)
        (UnionType.tokensAfter (.mark .equals) type ++ rest) := by
    intro type rest hrest
    cases type with
    | none => exact hrest.mono (by decide)
    | some type => exact ends_cons.mpr (by decide)
  obtain ⟨rfl, hrest⟩ := UnionType.tokensAfter_determined hbound bound' _ _
    (hends fallback r hr) (hends fallback' s hs) h
  obtain ⟨rfl, rfl⟩ := UnionType.tokensAfter_determined hfallback fallback' r s
    (hr.mono (by decide)) (hs.mono (by decide)) hrest
  rw [Subtype.ext hname]
  exact ⟨rfl, rfl⟩

/-- An optional name with its annotation. -/
theorem annotated_determined {isOptional isOptional' : Bool} {type type' : UnionType}
    {r s : List Token} (htype : Determined UnionType.tokens unionStops type)
    (hr : Ends unionStops r) (hs : Ends unionStops s)
    (h : questionMark isOptional ++ .mark .colon :: (type.tokens ++ r) =
      questionMark isOptional' ++ .mark .colon :: (type'.tokens ++ s)) :
    isOptional = isOptional' ∧ type = type' ∧ r = s := by
  have hends : ∀ rest, Ends [.mark .question] (.mark .colon :: rest) := by
    intro rest
    exact ends_cons.mpr (by decide)
  obtain ⟨hoptional, hrest⟩ := questionMark_determined isOptional isOptional' _ _ (hends _)
    (hends _) h
  injection hrest with _ hrest
  obtain ⟨heq, hrest⟩ := htype type' r s hr hs hrest
  exact ⟨hoptional, heq, hrest⟩

theorem ValueParameter.determined_of {name : BindingName} {isOptional : Bool} {type : UnionType}
    (htype : Determined UnionType.tokens unionStops type) :
    Determined ValueParameter.tokens unionStops ⟨name, isOptional, type⟩ := by
  rintro ⟨name', isOptional', type'⟩ r s hr hs h
  simp only [tokens, List.cons_append, List.append_assoc] at h
  injection h with hname h
  injection hname with hname
  obtain ⟨rfl, rfl, rfl⟩ := annotated_determined htype hr hs h
  rw [Subtype.ext hname]
  exact ⟨rfl, rfl⟩

theorem RestParameter.determined_of {name : BindingName} {type : UnionType}
    (htype : Determined UnionType.tokens unionStops type) :
    Determined RestParameter.tokens unionStops ⟨name, type⟩ := by
  rintro ⟨name', type'⟩ r s hr hs h
  injection h with _ h
  injection h with hname h
  injection hname with hname
  injection h with _ h
  obtain ⟨rfl, rfl⟩ := htype type' r s hr hs h
  rw [Subtype.ext hname]
  exact ⟨rfl, rfl⟩

/-- The tokens of a parameter of either sort. -/
def anyParameterTokens : ValueParameter ⊕ RestParameter → List Token
  | .inl param => param.tokens
  | .inr rest => rest.tokens

/-- The parameters of both sorts in one list. -/
def anyParameters (params : List ValueParameter) (rest : Option RestParameter) :
    List (ValueParameter ⊕ RestParameter) :=
  params.map .inl ++ rest.toList.map .inr

theorem anyParameters_inj {params params' : List ValueParameter} {rest rest' : Option RestParameter}
    (h : anyParameters params rest = anyParameters params' rest') :
    params = params' ∧ rest = rest' := by
  induction params generalizing params' with
  | nil =>
      cases params' with
      | nil => cases rest <;> cases rest' <;> simp_all [anyParameters]
      | cons param params' => cases rest <;> simp [anyParameters] at h
  | cons param params ih =>
      cases params' with
      | nil => cases rest' <;> simp [anyParameters] at h
      | cons param' params' =>
          injection h with hparam h
          injection hparam with hparam
          obtain ⟨rfl, rfl⟩ := ih h
          exact ⟨by rw [hparam], rfl⟩

theorem anyParameterTokens_determined {params : List ValueParameter} {rest : Option RestParameter}
    (hparams : ∀ param ∈ params, Determined ValueParameter.tokens unionStops param)
    (hrest : ∀ param ∈ rest, Determined RestParameter.tokens unionStops param) :
    ∀ param ∈ anyParameters params rest, Determined anyParameterTokens unionStops param := by
  intro any hany other r s hr hs h
  rcases List.mem_append.mp hany with hmem | hmem
  · obtain ⟨param, hparam, rfl⟩ := List.mem_map.mp hmem
    cases other with
    | inl other =>
        obtain ⟨rfl, rfl⟩ := hparams param hparam other r s hr hs h
        exact ⟨rfl, rfl⟩
    | inr other =>
        cases param
        cases other
        injection h with hhead _
        cases hhead
  · obtain ⟨param, hparam, rfl⟩ := List.mem_map.mp hmem
    cases other with
    | inl other =>
        cases param
        cases other
        injection h with hhead _
        cases hhead
    | inr other =>
        obtain ⟨rfl, rfl⟩ := hrest param (by simpa using hparam) other r s hr hs h
        exact ⟨rfl, rfl⟩

theorem CallSignature.tokens_eq (typeParams : List TypeParameter) (params : List ValueParameter)
    (rest : Option RestParameter) :
    tokens ⟨typeParams, params, rest⟩ = angled (typeParams.map TypeParameter.tokens) ++
      delimited .openParen .closeParen ((anyParameters params rest).map anyParameterTokens) := by
  simp [tokens, anyParameters, anyParameterTokens, Function.comp_def]

theorem CallSignature.determined_of {typeParams : List TypeParameter} {params : List ValueParameter}
    {rest : Option RestParameter}
    (htypeParams : ∀ param ∈ typeParams, Determined TypeParameter.tokens typeParameterStops param)
    (hparams : ∀ param ∈ params, Determined ValueParameter.tokens unionStops param)
    (hrest : ∀ param ∈ rest, Determined RestParameter.tokens unionStops param) :
    Determined CallSignature.tokens [] ⟨typeParams, params, rest⟩ := by
  rintro ⟨typeParams', params', rest'⟩ r s hr hs h
  simp only [tokens_eq, List.append_assoc] at h
  have htypeParam : ∀ (param : TypeParameter) (r s : List Token),
      param.tokens ++ r ≠ .mark .closeAngle :: s := by
    rintro ⟨name, bound, fallback⟩ r s heq
    injection heq with hhead _
    cases hhead
  have hparam : ∀ (param : ValueParameter ⊕ RestParameter) (r s : List Token),
      anyParameterTokens param ++ r ≠ .mark .closeParen :: s := by
    rintro (⟨name, isOptional, type⟩ | ⟨name, type⟩) r s heq
    all_goals
      injection heq with hhead _
      cases hhead
  have hparen : ∀ (parts : List (List Token)) (rest : List Token),
      Ends [.mark .openAngle] (delimited .openParen .closeParen parts ++ rest) :=
    fun _ _ => ends_cons.mpr (by decide)
  obtain ⟨rfl, hlist⟩ := angled_determined (by decide) htypeParam htypeParams typeParams' _ _
    (hparen _ r) (hparen _ s) h
  obtain ⟨hall, rfl⟩ := delimited_determined (by decide) (by decide) hparam
    (anyParameterTokens_determined hparams hrest) (anyParameters params' rest') r s hr hs hlist
  obtain ⟨rfl, rfl⟩ := anyParameters_inj hall
  exact ⟨rfl, rfl⟩

theorem MemberName.token_inj {a b : MemberName} (h : a.token = b.token) : a = b := by
  cases a with
  | word a =>
      cases b with
      | word b =>
          injection h with h
          rw [Subtype.ext h]
      | string b => cases h
  | string a =>
      cases b with
      | word b => cases h
      | string b =>
          injection h with h
          rw [Subtype.ext h]

inductive MemberKind
  | property
  | index
  | call

def Member.kind : Member → MemberKind
  | .property .. => .property
  | .index .. => .index
  | .call .. => .call

/-- The kind of the member in front, which its first token tells. -/
def memberKind? : List Token → Option MemberKind
  | .word _ :: _ => some .property
  | .string _ :: _ => some .property
  | .mark .openBracket :: _ => some .index
  | .mark .openParen :: _ => some .call
  | .mark .openAngle :: _ => some .call
  | _ => none

theorem Member.memberKind?_tokens (member : Member) (rest : List Token) :
    memberKind? (member.tokens ++ rest) = some member.kind := by
  cases member with
  | property name isOptional type => cases name <;> rfl
  | index name key type => rfl
  | call signature result =>
      obtain ⟨typeParams, params, last⟩ := signature
      cases typeParams with
      | nil => rfl
      | cons param typeParams => rfl

theorem Member.kind_eq {a b : Member} {r s : List Token}
    (h : a.tokens ++ r = b.tokens ++ s) : a.kind = b.kind := by
  have hkind := a.memberKind?_tokens r
  rw [h, b.memberKind?_tokens s] at hkind
  exact (Option.some.inj hkind).symm

theorem Member.property_determined {name : MemberName} {isOptional : Bool} {type : UnionType}
    (htype : Determined UnionType.tokens unionStops type) :
    Determined Member.tokens unionStops (.property name isOptional type) := by
  intro other r s hr hs h
  have hkind := Member.kind_eq h
  cases other with
  | property name' isOptional' type' =>
      simp only [tokens, List.cons_append, List.append_assoc] at h
      injection h with hname hrest
      obtain ⟨rfl, rfl, rfl⟩ := annotated_determined htype hr hs hrest
      rw [MemberName.token_inj hname]
      exact ⟨rfl, rfl⟩
  | _ => cases hkind

theorem Member.index_determined {name : BindingName} {key type : UnionType}
    (hkey : Determined UnionType.tokens unionStops key)
    (htype : Determined UnionType.tokens unionStops type) :
    Determined Member.tokens unionStops (.index name key type) := by
  intro other r s hr hs h
  have hkind := Member.kind_eq h
  cases other with
  | index name' key' type' =>
      simp only [tokens, List.cons_append, List.append_assoc] at h
      injection h with _ h
      injection h with hname h
      injection hname with hname
      injection h with _ h
      have hends : ∀ rest, Ends unionStops (.mark .closeBracket :: rest) :=
        fun _ => ends_cons.mpr (by decide)
      obtain ⟨rfl, hrest⟩ := hkey key' _ _ (hends _) (hends _) h
      injection hrest with _ hrest
      injection hrest with _ hrest
      obtain ⟨rfl, rfl⟩ := htype type' r s hr hs hrest
      rw [Subtype.ext hname]
      exact ⟨rfl, rfl⟩
  | _ => cases hkind

theorem Member.call_determined {signature : CallSignature} {result : UnionType}
    (hsignature : Determined CallSignature.tokens [] signature)
    (hresult : Determined UnionType.tokens unionStops result) :
    Determined Member.tokens unionStops (.call signature result) := by
  intro other r s hr hs h
  have hkind := Member.kind_eq h
  cases other with
  | call signature' result' =>
      simp only [tokens, List.cons_append, List.append_assoc] at h
      have hends : ∀ rest, Ends [] rest := fun _ _ _ => List.not_mem_nil
      obtain ⟨rfl, hrest⟩ := hsignature signature' _ _ (hends _) (hends _) h
      injection hrest with _ hrest
      obtain ⟨rfl, rfl⟩ := hresult result' r s hr hs hrest
      exact ⟨rfl, rfl⟩
  | _ => cases hkind

theorem Member.tokens_ne_closeBrace (member : Member) (r s : List Token) :
    member.tokens ++ r ≠ .mark .closeBrace :: s := by
  intro h
  have hkind := member.memberKind?_tokens r
  rw [h] at hkind
  cases hkind

theorem PrimaryType.keyword_determined (word : Keyword) :
    Determined PrimaryType.tokens primaryStops (.keyword word) := by
  intro other r s _ _ h
  have hkind := PrimaryType.kind_eq h
  cases other with
  | keyword word' =>
      injection h with htoken hrest
      injection htoken with htext
      rw [Subtype.ext htext]
      exact ⟨rfl, hrest⟩
  | _ => cases hkind

theorem PrimaryType.string_determined (literal : Literal) :
    Determined PrimaryType.tokens primaryStops (.string literal) := by
  intro other r s _ _ h
  have hkind := PrimaryType.kind_eq h
  cases other with
  | string literal' =>
      injection h with htoken hrest
      injection htoken with htext
      rw [Subtype.ext htext]
      exact ⟨rfl, hrest⟩
  | _ => cases hkind

theorem PrimaryType.number_determined (numeral : Numeral) :
    Determined PrimaryType.tokens primaryStops (.number numeral) := by
  intro other r s _ _ h
  have hkind := PrimaryType.kind_eq h
  cases other with
  | number numeral' =>
      injection h with htoken hrest
      injection htoken with htext
      rw [Subtype.ext htext]
      exact ⟨rfl, hrest⟩
  | _ => cases hkind

theorem PrimaryType.reference_determined {name : TypeName} {inner : List Name}
    {arguments : List UnionType}
    (harguments : ∀ type ∈ arguments, Determined UnionType.tokens unionStops type) :
    Determined PrimaryType.tokens primaryStops (.reference name inner arguments) := by
  intro other r s hr hs h
  have hkind := PrimaryType.kind_eq h
  cases other with
  | reference name' inner' arguments' =>
      simp only [tokens, dotted, separated, UnionType.tokenLists_eq_map, List.append_assoc,
        List.cons_append, List.nil_append] at h
      injection h with hname h
      injection hname with hname
      have hpart : ∀ part ∈ inner,
          Determined (fun part : Name => [Token.word part.val]) [] part := by
        intro part _ part' r s _ _ h
        injection h with hpart hrest
        injection hpart with hpart
        exact ⟨Subtype.ext hpart, hrest⟩
      have hends : ∀ (arguments : List UnionType) (rest : List Token), Ends primaryStops rest →
          Ends [.mark .dot] (angled (arguments.map UnionType.tokens) ++ rest) := by
        intro arguments rest hrest
        refine Ends.append ?_ (hrest.mono (by decide))
        cases arguments with
        | nil => exact ends_nil _
        | cons type arguments => exact ends_cons.mpr (by decide)
      obtain ⟨rfl, hrest⟩ := followed_determined List.not_mem_nil hpart inner' _ _
        (hends arguments r hr) (hends arguments' s hs) h
      obtain ⟨rfl, rfl⟩ := angled_determined (by decide) (UnionType.tokens_ne rfl) harguments
        arguments' r s (hr.mono (by decide)) (hs.mono (by decide)) hrest
      rw [Subtype.ext hname]
      exact ⟨rfl, rfl⟩
  | _ => cases hkind

theorem PrimaryType.tuple_determined {elements : List UnionType}
    (helements : ∀ type ∈ elements, Determined UnionType.tokens unionStops type) :
    Determined PrimaryType.tokens primaryStops (.tuple elements) := by
  intro other r s hr hs h
  have hkind := PrimaryType.kind_eq h
  cases other with
  | tuple elements' =>
      simp only [tokens, UnionType.tokenLists_eq_map] at h
      obtain ⟨rfl, rfl⟩ := delimited_determined (by decide) (by decide) (UnionType.tokens_ne rfl)
        helements elements' r s (hr.mono (by simp)) (hs.mono (by simp)) h
      exact ⟨rfl, rfl⟩
  | _ => cases hkind

theorem PrimaryType.object_determined {members : List Member}
    (hmembers : ∀ member ∈ members, Determined Member.tokens unionStops member) :
    Determined PrimaryType.tokens primaryStops (.object members) := by
  intro other r s hr hs h
  have hkind := PrimaryType.kind_eq h
  cases other with
  | object members' =>
      simp only [tokens, Member.tokenLists_eq_map] at h
      obtain ⟨rfl, rfl⟩ := delimited_determined (by decide) (by decide)
        Member.tokens_ne_closeBrace hmembers members' r s (hr.mono (by simp)) (hs.mono (by simp)) h
      exact ⟨rfl, rfl⟩
  | _ => cases hkind

theorem ends_closeParen (rest : List Token) : Ends unionStops (.mark .closeParen :: rest) :=
  ends_cons.mpr (by decide)

theorem PrimaryType.enclosed_determined {inner : UnionType}
    (hinner : Determined UnionType.tokens unionStops inner) :
    Determined PrimaryType.tokens primaryStops (.enclosed inner) := by
  intro other r s _ _ h
  have hkind := PrimaryType.kind_eq h
  cases other with
  | enclosed inner' =>
      simp only [tokens, List.cons_append, List.append_assoc, List.nil_append] at h
      injection h with _ h
      obtain ⟨rfl, hrest⟩ := hinner inner' _ _ (ends_closeParen r) (ends_closeParen s) h
      injection hrest with _ hrest
      exact ⟨rfl, hrest⟩
  | _ => cases hkind

theorem PrimaryType.function_determined {signature : CallSignature} {result : UnionType}
    (hsignature : Determined CallSignature.tokens [] signature)
    (hresult : Determined UnionType.tokens unionStops result) :
    Determined PrimaryType.tokens primaryStops (.function signature result) := by
  intro other r s _ _ h
  have hkind := PrimaryType.kind_eq h
  cases other with
  | function signature' result' =>
      simp only [tokens, List.cons_append, List.append_assoc, List.nil_append] at h
      injection h with _ h
      have hends : ∀ rest, Ends [] rest := fun _ _ _ => List.not_mem_nil
      obtain ⟨rfl, harrow⟩ := hsignature signature' _ _ (hends _) (hends _) h
      injection harrow with _ hbody
      obtain ⟨rfl, hclose⟩ := hresult result' _ _ (ends_closeParen r) (ends_closeParen s) hbody
      injection hclose with _ hrest
      exact ⟨rfl, hrest⟩
  | _ => cases hkind

/-! Every part of a syntax tree is determined. -/

mutual

theorem UnionType.determined : ∀ type : UnionType, Determined UnionType.tokens unionStops type
  | ⟨first, others⟩ =>
    UnionType.determined_of first.determined (IntersectionType.determined_of_mem others)

theorem UnionType.determined_of_mem :
    ∀ types : List UnionType, ∀ type ∈ types, Determined UnionType.tokens unionStops type
  | [] => fun _ h => nomatch h
  | first :: rest => List.forall_mem_cons.mpr ⟨first.determined, UnionType.determined_of_mem rest⟩

theorem UnionType.determined_of_some :
    ∀ type : Option UnionType, ∀ type' ∈ type, Determined UnionType.tokens unionStops type'
  | none => fun _ h => nomatch h
  | some type => fun _ h => Option.some.inj h ▸ type.determined

theorem IntersectionType.determined :
    ∀ type : IntersectionType, Determined IntersectionType.tokens intersectionStops type
  | ⟨first, others⟩ =>
    IntersectionType.determined_of first.determined (PostfixType.determined_of_mem others)

theorem IntersectionType.determined_of_mem : ∀ types : List IntersectionType, ∀ type ∈ types,
    Determined IntersectionType.tokens intersectionStops type
  | [] => fun _ h => nomatch h
  | first :: rest =>
    List.forall_mem_cons.mpr ⟨first.determined, IntersectionType.determined_of_mem rest⟩

theorem PostfixType.determined :
    ∀ type : PostfixType, Determined PostfixType.tokens postfixStops type
  | ⟨base, _⟩ => PostfixType.determined_of base.determined

theorem PostfixType.determined_of_mem : ∀ types : List PostfixType, ∀ type ∈ types,
    Determined PostfixType.tokens postfixStops type
  | [] => fun _ h => nomatch h
  | first :: rest =>
    List.forall_mem_cons.mpr ⟨first.determined, PostfixType.determined_of_mem rest⟩

theorem PrimaryType.determined :
    ∀ type : PrimaryType, Determined PrimaryType.tokens primaryStops type
  | .keyword word => PrimaryType.keyword_determined word
  | .reference _ _ arguments =>
    PrimaryType.reference_determined (UnionType.determined_of_mem arguments)
  | .string literal => PrimaryType.string_determined literal
  | .number numeral => PrimaryType.number_determined numeral
  | .tuple elements => PrimaryType.tuple_determined (UnionType.determined_of_mem elements)
  | .object members => PrimaryType.object_determined (Member.determined_of_mem members)
  | .enclosed inner => PrimaryType.enclosed_determined inner.determined
  | .function signature result =>
    PrimaryType.function_determined signature.determined result.determined

theorem CallSignature.determined :
    ∀ signature : CallSignature, Determined CallSignature.tokens [] signature
  | ⟨typeParams, params, rest⟩ =>
    CallSignature.determined_of (TypeParameter.determined_of_mem typeParams)
      (ValueParameter.determined_of_mem params) (RestParameter.determined_of_some rest)

theorem TypeParameter.determined :
    ∀ param : TypeParameter, Determined TypeParameter.tokens typeParameterStops param
  | ⟨_, bound, fallback⟩ =>
    TypeParameter.determined_of (UnionType.determined_of_some bound)
      (UnionType.determined_of_some fallback)

theorem TypeParameter.determined_of_mem : ∀ params : List TypeParameter, ∀ param ∈ params,
    Determined TypeParameter.tokens typeParameterStops param
  | [] => fun _ h => nomatch h
  | first :: rest =>
    List.forall_mem_cons.mpr ⟨first.determined, TypeParameter.determined_of_mem rest⟩

theorem ValueParameter.determined :
    ∀ param : ValueParameter, Determined ValueParameter.tokens unionStops param
  | ⟨_, _, type⟩ => ValueParameter.determined_of type.determined

theorem ValueParameter.determined_of_mem : ∀ params : List ValueParameter, ∀ param ∈ params,
    Determined ValueParameter.tokens unionStops param
  | [] => fun _ h => nomatch h
  | first :: rest =>
    List.forall_mem_cons.mpr ⟨first.determined, ValueParameter.determined_of_mem rest⟩

theorem RestParameter.determined :
    ∀ param : RestParameter, Determined RestParameter.tokens unionStops param
  | ⟨_, type⟩ => RestParameter.determined_of type.determined

theorem RestParameter.determined_of_some : ∀ rest : Option RestParameter, ∀ param ∈ rest,
    Determined RestParameter.tokens unionStops param
  | none => fun _ h => nomatch h
  | some rest => fun _ h => Option.some.inj h ▸ rest.determined

theorem Member.determined :
    ∀ member : Member, Determined Member.tokens unionStops member
  | .property _ _ type => Member.property_determined type.determined
  | .index _ key type => Member.index_determined key.determined type.determined
  | .call signature result => Member.call_determined signature.determined result.determined

theorem Member.determined_of_mem : ∀ members : List Member, ∀ member ∈ members,
    Determined Member.tokens unionStops member
  | [] => fun _ h => nomatch h
  | first :: rest => List.forall_mem_cons.mpr ⟨first.determined, Member.determined_of_mem rest⟩

end

/-- No tokens have two syntax trees. -/
theorem UnionType.tokens_inj {a b : UnionType} (h : a.tokens = b.tokens) : a = b :=
  (a.determined b [] [] (ends_nil _) (ends_nil _) (by rw [h])).1

end Ambient.TypeGrammar
