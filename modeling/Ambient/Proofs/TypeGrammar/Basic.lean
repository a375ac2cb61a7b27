import Ambient.Proofs.Lexical.Token

namespace Ambient.TypeGrammar

open Lexical

/-!
# The grammar of types

A type is a union of intersections. What is intersected has a primary type in
front and may be an array of it, more than once. A function type stands only in
parentheses. The tokens of a syntax tree are those of a text that has this tree.
-/

/-- A name that can refer to a type, or be the name of a type parameter. -/
abbrev TypeName := { text : String // isTypeName text = true }

abbrev BindingName := { text : String // isBindingName text = true }

abbrev Name := { text : String // isName text = true }

abbrev Keyword := { text : String // text ∈ keywordTypes }

abbrev Literal := { text : String // isLiteral text = true }

abbrev Numeral := { text : String // isNumeral text = true }

/-- A member of an object type is named by a word or by a literal. -/
inductive MemberName
  | word (name : Name)
  | string (literal : Literal)
deriving DecidableEq

mutual

structure UnionType where
  first : IntersectionType
  others : List IntersectionType

structure IntersectionType where
  first : PostfixType
  others : List PostfixType

/-- A primary type with pairs of brackets behind it. -/
structure PostfixType where
  base : PrimaryType
  arrays : Nat

inductive PrimaryType
  | keyword (word : Keyword)
  | reference (name : TypeName) (inner : List Name) (arguments : List UnionType)
  | string (literal : Literal)
  | number (numeral : Numeral)
  | tuple (elements : List UnionType)
  | object (members : List Member)
  | enclosed (inner : UnionType)
  | function (signature : CallSignature) (result : UnionType)

/-- The parameters of a function, of which a rest parameter comes last. -/
structure CallSignature where
  typeParams : List TypeParameter
  params : List ValueParameter
  rest : Option RestParameter

structure TypeParameter where
  name : TypeName
  bound : Option UnionType
  fallback : Option UnionType

structure ValueParameter where
  name : BindingName
  isOptional : Bool
  type : UnionType

structure RestParameter where
  name : BindingName
  type : UnionType

inductive Member
  | property (name : MemberName) (isOptional : Bool) (type : UnionType)
  | index (name : BindingName) (key type : UnionType)
  | call (signature : CallSignature) (result : UnionType)

end

/-- Parts between two marks, with commas between them. -/
def delimited (opening closing : Mark) (parts : List (List Token)) : List Token :=
  .mark opening :: (separated .comma parts ++ [.mark closing])

/-- Parts in angle brackets, which are left out if there are no parts. -/
def angled (parts : List (List Token)) : List Token :=
  if parts = [] then [] else delimited .openAngle .closeAngle parts

def dotted (name : TypeName) (inner : List Name) : List Token :=
  separated .dot ([.word name] :: inner.map fun name => [.word name.val])

/-- Pairs of brackets. -/
def brackets (count : Nat) : List Token :=
  followed .openBracket (List.replicate count [.mark .closeBracket])

theorem brackets_succ (count : Nat) :
    brackets (count + 1) = brackets count ++ [.mark .openBracket, .mark .closeBracket] := by
  simp [brackets, followed, List.replicate_succ']

def questionMark (isOptional : Bool) : List Token :=
  if isOptional then [.mark .question] else []

def MemberName.token : MemberName → Token
  | .word name => .word name
  | .string literal => .string literal

mutual

def UnionType.tokens : UnionType → List Token
  | ⟨first, others⟩ => separated .bar (first.tokens :: IntersectionType.tokenLists others)

def UnionType.tokenLists : List UnionType → List (List Token)
  | [] => []
  | type :: rest => type.tokens :: UnionType.tokenLists rest

/-- The tokens of a type behind a token, if there is a type. -/
def UnionType.tokensAfter (lead : Token) : Option UnionType → List Token
  | none => []
  | some type => lead :: type.tokens

def IntersectionType.tokens : IntersectionType → List Token
  | ⟨first, others⟩ => separated .ampersand (first.tokens :: PostfixType.tokenLists others)

def IntersectionType.tokenLists : List IntersectionType → List (List Token)
  | [] => []
  | type :: rest => type.tokens :: IntersectionType.tokenLists rest

def PostfixType.tokens : PostfixType → List Token
  | ⟨base, arrays⟩ => base.tokens ++ brackets arrays

def PostfixType.tokenLists : List PostfixType → List (List Token)
  | [] => []
  | type :: rest => type.tokens :: PostfixType.tokenLists rest

def PrimaryType.tokens : PrimaryType → List Token
  | .keyword word => [.word word]
  | .reference name inner arguments => dotted name inner ++ angled (UnionType.tokenLists arguments)
  | .string literal => [.string literal]
  | .number numeral => [.number numeral]
  | .tuple elements => delimited .openBracket .closeBracket (UnionType.tokenLists elements)
  | .object members => delimited .openBrace .closeBrace (Member.tokenLists members)
  | .enclosed inner => .mark .openParen :: (inner.tokens ++ [.mark .closeParen])
  | .function signature result =>
    .mark .openParen :: (signature.tokens ++ .mark .arrow :: (result.tokens ++ [.mark .closeParen]))

def CallSignature.tokens : CallSignature → List Token
  | ⟨typeParams, params, rest⟩ =>
    angled (TypeParameter.tokenLists typeParams) ++
      delimited .openParen .closeParen
        (ValueParameter.tokenLists params ++ RestParameter.tokenLists rest)

def TypeParameter.tokens : TypeParameter → List Token
  | ⟨name, bound, fallback⟩ =>
    .word name :: (UnionType.tokensAfter (.word "extends") bound ++
      UnionType.tokensAfter (.mark .equals) fallback)

def TypeParameter.tokenLists : List TypeParameter → List (List Token)
  | [] => []
  | param :: rest => param.tokens :: TypeParameter.tokenLists rest

def ValueParameter.tokens : ValueParameter → List Token
  | ⟨name, isOptional, type⟩ =>
    .word name :: (questionMark isOptional ++ .mark .colon :: type.tokens)

def ValueParameter.tokenLists : List ValueParameter → List (List Token)
  | [] => []
  | param :: rest => param.tokens :: ValueParameter.tokenLists rest

def RestParameter.tokens : RestParameter → List Token
  | ⟨name, type⟩ => .mark .ellipsis :: .word name :: .mark .colon :: type.tokens

def RestParameter.tokenLists : Option RestParameter → List (List Token)
  | none => []
  | some param => [param.tokens]

def Member.tokens : Member → List Token
  | .property name isOptional type =>
    name.token :: (questionMark isOptional ++ .mark .colon :: type.tokens)
  | .index name key type =>
    .mark .openBracket :: .word name :: .mark .colon ::
      (key.tokens ++ .mark .closeBracket :: .mark .colon :: type.tokens)
  | .call signature result => signature.tokens ++ .mark .colon :: result.tokens

def Member.tokenLists : List Member → List (List Token)
  | [] => []
  | member :: rest => member.tokens :: Member.tokenLists rest

end

@[simp] theorem UnionType.tokenLists_eq_map (types : List UnionType) :
    UnionType.tokenLists types = types.map UnionType.tokens := by
  induction types with
  | nil => rfl
  | cons type rest ih => rw [UnionType.tokenLists, ih, List.map_cons]

@[simp] theorem IntersectionType.tokenLists_eq_map (types : List IntersectionType) :
    IntersectionType.tokenLists types = types.map IntersectionType.tokens := by
  induction types with
  | nil => rfl
  | cons type rest ih => rw [IntersectionType.tokenLists, ih, List.map_cons]

@[simp] theorem PostfixType.tokenLists_eq_map (types : List PostfixType) :
    PostfixType.tokenLists types = types.map PostfixType.tokens := by
  induction types with
  | nil => rfl
  | cons type rest ih => rw [PostfixType.tokenLists, ih, List.map_cons]

@[simp] theorem TypeParameter.tokenLists_eq_map (params : List TypeParameter) :
    TypeParameter.tokenLists params = params.map TypeParameter.tokens := by
  induction params with
  | nil => rfl
  | cons param rest ih => rw [TypeParameter.tokenLists, ih, List.map_cons]

@[simp] theorem ValueParameter.tokenLists_eq_map (params : List ValueParameter) :
    ValueParameter.tokenLists params = params.map ValueParameter.tokens := by
  induction params with
  | nil => rfl
  | cons param rest ih => rw [ValueParameter.tokenLists, ih, List.map_cons]

@[simp] theorem Member.tokenLists_eq_map (members : List Member) :
    Member.tokenLists members = members.map Member.tokens := by
  induction members with
  | nil => rfl
  | cons member rest ih => rw [Member.tokenLists, ih, List.map_cons]

@[simp] theorem RestParameter.tokenLists_eq_map (rest : Option RestParameter) :
    RestParameter.tokenLists rest = rest.toList.map RestParameter.tokens := by
  cases rest <;> rfl

end Ambient.TypeGrammar
