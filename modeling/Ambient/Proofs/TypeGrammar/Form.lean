import Ambient.Proofs.TypeGrammar.Basic

namespace Ambient.TypeGrammar

open Lexical

/-!
# Normal forms of types

The normal form of a type keeps what the type says and forgets how it is written.
A union of unions is one union, and a union of one type is that type; the same
goes for intersections. Parentheses leave no trace.
-/

inductive Operator
  | union
  | intersection
deriving DecidableEq, Repr

inductive ParameterSort
  | required
  | optional
  | rest
deriving DecidableEq, Repr

inductive MemberNameForm
  | word (name : String)
  | string (literal : String)
deriving DecidableEq, Repr

mutual

inductive TypeForm
  | keyword (word : String)
  | reference (path : List String) (arguments : List TypeForm)
  /-- A string literal, by the units of its value. -/
  | string (units : List Nat)
  | number (text : String)
  | compound (operator : Operator) (operands : List TypeForm)
  | array (element : TypeForm)
  | tuple (elements : List TypeForm)
  | object (members : List MemberForm)
  | function (signature : SignatureForm) (result : TypeForm)

structure SignatureForm where
  typeParams : List TypeParameterForm
  params : List ParameterForm

structure TypeParameterForm where
  name : String
  bound : Option TypeForm
  fallback : Option TypeForm

structure ParameterForm where
  name : String
  sort : ParameterSort
  type : TypeForm

inductive MemberForm
  | property (name : MemberNameForm) (isOptional : Bool) (type : TypeForm)
  | index (name : String) (key type : TypeForm)
  | call (signature : SignatureForm) (result : TypeForm)

end

mutual

/-- The operands of a type as one that an operator holds together. -/
def TypeForm.operandsOf (operator : Operator) : TypeForm → List TypeForm
  | .compound other operands =>
    if other = operator then TypeForm.allOperandsOf operator operands
    else [.compound other operands]
  | form => [form]

def TypeForm.allOperandsOf (operator : Operator) : List TypeForm → List TypeForm
  | [] => []
  | form :: rest => form.operandsOf operator ++ TypeForm.allOperandsOf operator rest

end

/-- Types joined by an operator. One type alone needs no operator. -/
def TypeForm.join (operator : Operator) : List TypeForm → TypeForm
  | [single] => single
  | forms => .compound operator (forms.flatMap (·.operandsOf operator))

theorem TypeForm.allOperandsOf_eq_flatMap (operator : Operator) (forms : List TypeForm) :
    TypeForm.allOperandsOf operator forms = forms.flatMap (·.operandsOf operator) := by
  induction forms with
  | nil => rfl
  | cons form rest ih => rw [TypeForm.allOperandsOf, ih, List.flatMap_cons]

mutual

/-- An operand has no operands of its own. -/
theorem TypeForm.operandsOf_operand (operator : Operator) :
    ∀ form : TypeForm, ∀ operand ∈ form.operandsOf operator,
      operand.operandsOf operator = [operand]
  | .compound other operands => by
      intro operand h
      rw [TypeForm.operandsOf] at h
      split at h
      · exact TypeForm.allOperandsOf_operand operator operands operand h
      · next hother =>
          rw [List.mem_singleton.mp h, TypeForm.operandsOf, if_neg hother]
  | .keyword _ => fun _ h => List.mem_singleton.mp h ▸ rfl
  | .reference _ _ => fun _ h => List.mem_singleton.mp h ▸ rfl
  | .string _ => fun _ h => List.mem_singleton.mp h ▸ rfl
  | .number _ => fun _ h => List.mem_singleton.mp h ▸ rfl
  | .array _ => fun _ h => List.mem_singleton.mp h ▸ rfl
  | .tuple _ => fun _ h => List.mem_singleton.mp h ▸ rfl
  | .object _ => fun _ h => List.mem_singleton.mp h ▸ rfl
  | .function _ _ => fun _ h => List.mem_singleton.mp h ▸ rfl

theorem TypeForm.allOperandsOf_operand (operator : Operator) :
    ∀ forms : List TypeForm, ∀ operand ∈ TypeForm.allOperandsOf operator forms,
      operand.operandsOf operator = [operand]
  | [] => fun _ h => nomatch h
  | form :: rest => by
      intro operand h
      rcases List.mem_append.mp h with h | h
      · exact form.operandsOf_operand operator operand h
      · exact TypeForm.allOperandsOf_operand operator rest operand h

end

/-- Joined types have the operands of all of them. -/
theorem TypeForm.operandsOf_join (operator : Operator) (forms : List TypeForm) :
    (TypeForm.join operator forms).operandsOf operator =
      forms.flatMap (·.operandsOf operator) := by
  have hall : ∀ operands : List TypeForm,
      (∀ operand ∈ operands, operand.operandsOf operator = [operand]) →
        TypeForm.allOperandsOf operator operands = operands := by
    intro operands hoperands
    induction operands with
    | nil => rfl
    | cons operand rest ih =>
        rw [TypeForm.allOperandsOf, hoperands operand List.mem_cons_self,
          ih fun other hother => hoperands other (List.mem_cons_of_mem operand hother)]
        rfl
  have hforms := hall _ (TypeForm.allOperandsOf_operand operator forms)
  rw [TypeForm.allOperandsOf_eq_flatMap operator forms] at hforms
  match forms with
  | [] => simpa [TypeForm.join, TypeForm.operandsOf] using hforms
  | [single] => simp [TypeForm.join]
  | first :: second :: rest => simpa [TypeForm.join, TypeForm.operandsOf] using hforms

theorem TypeForm.join_two (operator : Operator) (first second : TypeForm)
    (rest : List TypeForm) :
    TypeForm.join operator (first :: second :: rest) =
      .compound operator ((first :: second :: rest).flatMap (·.operandsOf operator)) := rfl

/-- A join of joins is one join. -/
theorem TypeForm.join_flatMap (operator : Operator) {α : Type} {chain : α → List TypeForm}
    (h : ∀ a, chain a ≠ []) (as : List α) :
    TypeForm.join operator (as.flatMap chain) =
      TypeForm.join operator (as.map fun a => TypeForm.join operator (chain a)) := by
  match as with
  | [] => rfl
  | [a] => simp [TypeForm.join]
  | a :: b :: rest =>
      have hoperands : ∀ as : List α, (as.flatMap chain).flatMap (·.operandsOf operator) =
          (as.map fun a => TypeForm.join operator (chain a)).flatMap (·.operandsOf operator) := by
        intro as
        induction as with
        | nil => rfl
        | cons a rest ih =>
            rw [List.flatMap_cons, List.flatMap_append, ih, List.map_cons, List.flatMap_cons,
              TypeForm.operandsOf_join]
      have hmany : ∃ first second others,
          (a :: b :: rest).flatMap chain = first :: second :: others := by
        obtain ⟨first, others, ha⟩ := List.exists_cons_of_ne_nil (h a)
        obtain ⟨second, more, hb⟩ := List.exists_cons_of_ne_nil (h b)
        cases others with
        | nil => exact ⟨first, second, more ++ rest.flatMap chain, by simp [ha, hb]⟩
        | cons third others =>
            exact ⟨first, third, others ++ (chain b ++ rest.flatMap chain), by simp [ha]⟩
      obtain ⟨first, second, others, hchain⟩ := hmany
      rw [hchain, TypeForm.join_two, ← hchain, hoperands]
      rfl

/-- A type with so many pairs of brackets behind it. -/
def TypeForm.arrays (form : TypeForm) : Nat → TypeForm
  | 0 => form
  | count + 1 => .array (form.arrays count)

def MemberName.form : MemberName → MemberNameForm
  | .word name => .word name
  | .string literal => .string literal

def parameterSort (isOptional : Bool) : ParameterSort :=
  if isOptional then .optional else .required

mutual

def UnionType.form : UnionType → TypeForm
  | ⟨first, others⟩ => .join .union (first.form :: IntersectionType.forms others)

def UnionType.forms : List UnionType → List TypeForm
  | [] => []
  | type :: rest => type.form :: UnionType.forms rest

def UnionType.form? : Option UnionType → Option TypeForm
  | none => none
  | some type => some type.form

def IntersectionType.form : IntersectionType → TypeForm
  | ⟨first, others⟩ => .join .intersection (first.form :: PostfixType.forms others)

def IntersectionType.forms : List IntersectionType → List TypeForm
  | [] => []
  | type :: rest => type.form :: IntersectionType.forms rest

def PostfixType.form : PostfixType → TypeForm
  | ⟨base, arrays⟩ => base.form.arrays arrays

def PostfixType.forms : List PostfixType → List TypeForm
  | [] => []
  | type :: rest => type.form :: PostfixType.forms rest

def PrimaryType.form : PrimaryType → TypeForm
  | .keyword word => .keyword word
  | .reference name inner arguments =>
    .reference (name.val :: inner.map (·.val)) (UnionType.forms arguments)
  | .string literal => .string ((literalUnits? literal).getD [])
  | .number numeral => .number numeral
  | .tuple elements => .tuple (UnionType.forms elements)
  | .object members => .object (Member.forms members)
  | .enclosed inner => inner.form
  | .function signature result => .function signature.form result.form

def CallSignature.form : CallSignature → SignatureForm
  | ⟨typeParams, params, rest⟩ =>
    ⟨TypeParameter.forms typeParams, ValueParameter.forms params ++ RestParameter.forms rest⟩

def TypeParameter.form : TypeParameter → TypeParameterForm
  | ⟨name, bound, fallback⟩ => ⟨name, UnionType.form? bound, UnionType.form? fallback⟩

def TypeParameter.forms : List TypeParameter → List TypeParameterForm
  | [] => []
  | param :: rest => param.form :: TypeParameter.forms rest

def ValueParameter.form : ValueParameter → ParameterForm
  | ⟨name, isOptional, type⟩ => ⟨name, parameterSort isOptional, type.form⟩

def ValueParameter.forms : List ValueParameter → List ParameterForm
  | [] => []
  | param :: rest => param.form :: ValueParameter.forms rest

def RestParameter.form : RestParameter → ParameterForm
  | ⟨name, type⟩ => ⟨name, .rest, type.form⟩

def RestParameter.forms : Option RestParameter → List ParameterForm
  | none => []
  | some param => [param.form]

def Member.form : Member → MemberForm
  | .property name isOptional type => .property name.form isOptional type.form
  | .index name key type => .index name key.form type.form
  | .call signature result => .call signature.form result.form

def Member.forms : List Member → List MemberForm
  | [] => []
  | member :: rest => member.form :: Member.forms rest

end

@[simp] theorem UnionType.forms_eq_map (types : List UnionType) :
    UnionType.forms types = types.map UnionType.form := by
  induction types with
  | nil => rfl
  | cons type rest ih => rw [UnionType.forms, ih, List.map_cons]

@[simp] theorem IntersectionType.forms_eq_map (types : List IntersectionType) :
    IntersectionType.forms types = types.map IntersectionType.form := by
  induction types with
  | nil => rfl
  | cons type rest ih => rw [IntersectionType.forms, ih, List.map_cons]

@[simp] theorem PostfixType.forms_eq_map (types : List PostfixType) :
    PostfixType.forms types = types.map PostfixType.form := by
  induction types with
  | nil => rfl
  | cons type rest ih => rw [PostfixType.forms, ih, List.map_cons]

@[simp] theorem TypeParameter.forms_eq_map (params : List TypeParameter) :
    TypeParameter.forms params = params.map TypeParameter.form := by
  induction params with
  | nil => rfl
  | cons param rest ih => rw [TypeParameter.forms, ih, List.map_cons]

@[simp] theorem ValueParameter.forms_eq_map (params : List ValueParameter) :
    ValueParameter.forms params = params.map ValueParameter.form := by
  induction params with
  | nil => rfl
  | cons param rest ih => rw [ValueParameter.forms, ih, List.map_cons]

@[simp] theorem Member.forms_eq_map (members : List Member) :
    Member.forms members = members.map Member.form := by
  induction members with
  | nil => rfl
  | cons member rest ih => rw [Member.forms, ih, List.map_cons]

@[simp] theorem RestParameter.forms_eq_map (rest : Option RestParameter) :
    RestParameter.forms rest = rest.toList.map RestParameter.form := by
  cases rest <;> rfl

/-- The operands of a union, one behind the other. -/
def UnionType.operands (type : UnionType) : List IntersectionType :=
  type.first :: type.others

theorem UnionType.tokens_eq_operands (type : UnionType) :
    type.tokens = separated .bar (type.operands.map IntersectionType.tokens) := by
  obtain ⟨first, others⟩ := type
  rw [tokens, IntersectionType.tokenLists_eq_map]
  rfl

theorem UnionType.form_eq_operands (type : UnionType) :
    type.form = .join .union (type.operands.map IntersectionType.form) := by
  obtain ⟨first, others⟩ := type
  rw [form, IntersectionType.forms_eq_map]
  rfl

/-- One union with the operands of all of them. -/
def UnionType.concat (first : UnionType) (others : List UnionType) : UnionType :=
  ⟨first.first, first.others ++ others.flatMap operands⟩

theorem UnionType.operands_concat (first : UnionType) (others : List UnionType) :
    (first.concat others).operands = (first :: others).flatMap operands := rfl

theorem UnionType.tokens_concat (first : UnionType) (others : List UnionType) :
    (first.concat others).tokens = separated .bar ((first :: others).map tokens) := by
  rw [tokens_eq_operands, operands_concat, List.map_flatMap, separated_flatMap]
  · exact congrArg _ (List.map_congr_left fun type _ => type.tokens_eq_operands.symm)
  · exact fun _ => List.cons_ne_nil _ _

theorem UnionType.form_concat (first : UnionType) (others : List UnionType) :
    (first.concat others).form = .join .union ((first :: others).map form) := by
  rw [form_eq_operands, operands_concat, List.map_flatMap, TypeForm.join_flatMap]
  · exact congrArg _ (List.map_congr_left fun type _ => type.form_eq_operands.symm)
  · exact fun _ => List.cons_ne_nil _ _

/-- The operands of an intersection, one behind the other. -/
def IntersectionType.operands (type : IntersectionType) : List PostfixType :=
  type.first :: type.others

theorem IntersectionType.tokens_eq_operands (type : IntersectionType) :
    type.tokens = separated .ampersand (type.operands.map PostfixType.tokens) := by
  obtain ⟨first, others⟩ := type
  rw [tokens, PostfixType.tokenLists_eq_map]
  rfl

theorem IntersectionType.form_eq_operands (type : IntersectionType) :
    type.form = .join .intersection (type.operands.map PostfixType.form) := by
  obtain ⟨first, others⟩ := type
  rw [form, PostfixType.forms_eq_map]
  rfl

/-- One intersection with the operands of all of them. -/
def IntersectionType.concat (first : IntersectionType) (others : List IntersectionType) :
    IntersectionType :=
  ⟨first.first, first.others ++ others.flatMap operands⟩

theorem IntersectionType.operands_concat (first : IntersectionType)
    (others : List IntersectionType) :
    (first.concat others).operands = (first :: others).flatMap operands := rfl

theorem IntersectionType.tokens_concat (first : IntersectionType) (others : List IntersectionType) :
    (first.concat others).tokens = separated .ampersand ((first :: others).map tokens) := by
  rw [tokens_eq_operands, operands_concat, List.map_flatMap, separated_flatMap]
  · exact congrArg _ (List.map_congr_left fun type _ => type.tokens_eq_operands.symm)
  · exact fun _ => List.cons_ne_nil _ _

theorem IntersectionType.form_concat (first : IntersectionType) (others : List IntersectionType) :
    (first.concat others).form = .join .intersection ((first :: others).map form) := by
  rw [form_eq_operands, operands_concat, List.map_flatMap, TypeForm.join_flatMap]
  · exact congrArg _ (List.map_congr_left fun type _ => type.form_eq_operands.symm)
  · exact fun _ => List.cons_ne_nil _ _

end Ambient.TypeGrammar
