import Ambient.Emission.Params
import Ambient.Proofs.TypeText.Written

namespace Ambient

/-!
# Origins inside types and patterns

Where the parts of a type or a pattern stand in the source and which comments are in front
of them can be changed at will: the text of the type and the parameter of the pattern remain
the same.
-/

/-- A string literal with another origin. -/
def StringLiteral.mapOrigins (f : Origin → Origin) (literal : StringLiteral) : StringLiteral :=
  { literal with origin := f literal.origin }

mutual

/-- A type with other origins. -/
def FlowType.mapOrigins (f : Origin → Origin) : FlowType → FlowType
  | .generic name arguments => .generic (name.mapOrigins f) (FlowType.mapAllOrigins f arguments)
  | .union types => .union (FlowType.mapAllOrigins f types)
  | .intersection types => .intersection (FlowType.mapAllOrigins f types)
  | .function type => .function (type.mapOrigins f)
  | .array element => .array (element.mapOrigins f)
  | .tuple elements => .tuple (FlowType.mapAllOrigins f elements)
  | .object type => .object (type.mapOrigins f)
  | .nullable inner => .nullable (inner.mapOrigins f)
  | .void => .void
  | .number => .number
  | .string => .string
  | .boolean => .boolean
  | .any => .any
  | .null => .null
  | .stringLiteral value => .stringLiteral value
  | .numberLiteral value raw => .numberLiteral value raw
  | .booleanLiteral value => .booleanLiteral value
  | .unsupported kind => .unsupported kind

def FlowType.mapAllOrigins (f : Origin → Origin) : List FlowType → List FlowType
  | [] => []
  | type :: rest => type.mapOrigins f :: FlowType.mapAllOrigins f rest

def FlowType.mapOrigins? (f : Origin → Origin) : Option FlowType → Option FlowType
  | none => none
  | some type => some (type.mapOrigins f)

def TypeRef.mapOrigins (f : Origin → Origin) : TypeRef → TypeRef
  | .identifier id => .identifier (id.mapOrigins f)
  | .qualified qualification id => .qualified (qualification.mapOrigins f) (id.mapOrigins f)
  | .unsupported kind => .unsupported kind

def Identifier.mapOrigins (f : Origin → Origin) : Identifier → Identifier
  | ⟨origin, name, type, optional⟩ => ⟨f origin, name, FlowType.mapOrigins? f type, optional⟩

def Identifier.mapOrigins? (f : Origin → Origin) : Option Identifier → Option Identifier
  | none => none
  | some id => some (id.mapOrigins f)

def PropertyKey.mapOrigins (f : Origin → Origin) : PropertyKey → PropertyKey
  | .identifier id => .identifier (id.mapOrigins f)
  | .string literal => .string (literal.mapOrigins f)
  | .unsupported kind => .unsupported kind

def FunctionType.mapOrigins (f : Origin → Origin) : FunctionType → FunctionType
  | ⟨params, rest, result, typeParams⟩ =>
    ⟨FunctionParam.mapAllOrigins f params, FunctionParam.mapOrigins? f rest, result.mapOrigins f,
      TypeParam.mapAllOrigins f typeParams⟩

def FunctionParam.mapOrigins (f : Origin → Origin) : FunctionParam → FunctionParam
  | ⟨name, type, optional⟩ =>
    ⟨Identifier.mapOrigins? f name, FlowType.mapOrigins? f type, optional⟩

def FunctionParam.mapAllOrigins (f : Origin → Origin) : List FunctionParam → List FunctionParam
  | [] => []
  | param :: rest => param.mapOrigins f :: FunctionParam.mapAllOrigins f rest

def FunctionParam.mapOrigins? (f : Origin → Origin) : Option FunctionParam → Option FunctionParam
  | none => none
  | some param => some (param.mapOrigins f)

def TypeParam.mapOrigins (f : Origin → Origin) : TypeParam → TypeParam
  | ⟨name, bound, fallback⟩ =>
    ⟨name, FlowType.mapOrigins? f bound, FlowType.mapOrigins? f fallback⟩

def TypeParam.mapAllOrigins (f : Origin → Origin) : List TypeParam → List TypeParam
  | [] => []
  | param :: rest => param.mapOrigins f :: TypeParam.mapAllOrigins f rest

def ObjectType.mapOrigins (f : Origin → Origin) : ObjectType → ObjectType
  | ⟨properties, indexers, calls⟩ =>
    ⟨ObjectMember.mapAllOrigins f properties, Indexer.mapAllOrigins f indexers,
      CallProperty.mapAllOrigins f calls⟩

def ObjectMember.mapAllOrigins (f : Origin → Origin) : List ObjectMember → List ObjectMember
  | [] => []
  | .property ⟨origin, key, value, optional, isStatic⟩ :: rest =>
    .property ⟨f origin, key.mapOrigins f, value.mapOrigins f, optional, isStatic⟩ ::
      ObjectMember.mapAllOrigins f rest
  | .unsupported kind :: rest => .unsupported kind :: ObjectMember.mapAllOrigins f rest

def Indexer.mapAllOrigins (f : Origin → Origin) : List Indexer → List Indexer
  | [] => []
  | ⟨origin, id, key, value, isStatic⟩ :: rest =>
    ⟨f origin, Identifier.mapOrigins? f id, key.mapOrigins f, value.mapOrigins f, isStatic⟩ ::
      Indexer.mapAllOrigins f rest

def CallProperty.mapAllOrigins (f : Origin → Origin) : List CallProperty → List CallProperty
  | [] => []
  | ⟨origin, value, isStatic⟩ :: rest =>
    ⟨f origin, value.mapOrigins f, isStatic⟩ :: CallProperty.mapAllOrigins f rest

end

section

variable (f : Origin → Origin)

@[simp] theorem StringLiteral.value_mapOrigins (literal : StringLiteral) :
    (literal.mapOrigins f).value = literal.value := rfl

@[simp] theorem StringLiteral.text_mapOrigins (literal : StringLiteral) :
    (literal.mapOrigins f).text = literal.text := rfl

@[simp] theorem Identifier.name_mapOrigins (id : Identifier) : (id.mapOrigins f).name = id.name := by
  obtain ⟨origin, name, type, optional⟩ := id
  rfl

@[simp] theorem Identifier.type_mapOrigins (id : Identifier) :
    (id.mapOrigins f).type = FlowType.mapOrigins? f id.type := by
  obtain ⟨origin, name, type, optional⟩ := id
  rfl

@[simp] theorem Identifier.optional_mapOrigins (id : Identifier) :
    (id.mapOrigins f).optional = id.optional := by
  obtain ⟨origin, name, type, optional⟩ := id
  rfl

@[simp] theorem paramName_mapOrigins (index : Nat) (id : Option Identifier) :
    paramName index (Identifier.mapOrigins? f id) = paramName index id := by
  cases id with
  | none => rfl
  | some id => simp [Identifier.mapOrigins?, paramName]

@[simp] theorem indexName_mapOrigins (id : Option Identifier) :
    indexName (Identifier.mapOrigins? f id) = indexName id := by
  cases id with
  | none => rfl
  | some id => simp [Identifier.mapOrigins?, indexName]

@[simp] theorem TypeRef.text_mapOrigins : ∀ name : TypeRef, (name.mapOrigins f).text = name.text
  | .identifier id => by simp [TypeRef.mapOrigins, TypeRef.text]
  | .qualified qualification id => by
    simp [TypeRef.mapOrigins, TypeRef.text, qualification.text_mapOrigins]
  | .unsupported _ => rfl

@[simp] theorem PropertyKey.written_mapOrigins (key : PropertyKey) :
    (key.mapOrigins f).written = key.written := by
  cases key <;> simp [PropertyKey.mapOrigins, PropertyKey.written]

@[simp] theorem FlowType.binding?_mapOrigins (type : FlowType) :
    (type.mapOrigins f).binding? = type.binding? := by
  cases type <;> rfl

@[simp] theorem FunctionParam.length_mapAllOrigins (params : List FunctionParam) :
    (FunctionParam.mapAllOrigins f params).length = params.length := by
  induction params with
  | nil => rfl
  | cons param rest ih => simp [FunctionParam.mapAllOrigins, ih]

mutual

@[simp] theorem FlowType.text_mapOrigins : ∀ type : FlowType, (type.mapOrigins f).text = type.text
  | .generic name arguments => by
    simp [FlowType.mapOrigins, FlowType.text, FlowType.texts_mapAllOrigins arguments]
  | .union types => by
    simp [FlowType.mapOrigins, FlowType.text, FlowType.operands_mapAllOrigins .union types]
  | .intersection types => by
    simp [FlowType.mapOrigins, FlowType.text, FlowType.operands_mapAllOrigins .intersection types]
  | .function type => by simp [FlowType.mapOrigins, FlowType.text, type.text_mapOrigins]
  | .array element => by simp [FlowType.mapOrigins, FlowType.text, element.text_mapOrigins]
  | .tuple elements => by
    simp [FlowType.mapOrigins, FlowType.text, FlowType.texts_mapAllOrigins elements]
  | .object type => by simp [FlowType.mapOrigins, FlowType.text, type.text_mapOrigins]
  | .nullable inner => by simp [FlowType.mapOrigins, FlowType.text, inner.text_mapOrigins]
  | .void => rfl
  | .number => rfl
  | .string => rfl
  | .boolean => rfl
  | .any => rfl
  | .null => rfl
  | .stringLiteral _ => rfl
  | .numberLiteral _ _ => rfl
  | .booleanLiteral _ => rfl
  | .unsupported _ => rfl

@[simp] theorem FlowType.texts_mapAllOrigins : ∀ types : List FlowType,
    FlowType.texts (FlowType.mapAllOrigins f types) = FlowType.texts types
  | [] => rfl
  | type :: rest => by
    simp [FlowType.mapAllOrigins, FlowType.texts, type.text_mapOrigins,
      FlowType.texts_mapAllOrigins rest]

theorem FlowType.operands_mapAllOrigins (context : Binding) : ∀ types : List FlowType,
    FlowType.operands context (FlowType.mapAllOrigins f types) = FlowType.operands context types
  | [] => rfl
  | type :: rest => by
    simp [FlowType.mapAllOrigins, FlowType.operands, type.text_mapOrigins,
      FlowType.operands_mapAllOrigins context rest]

@[simp] theorem FlowType.textOrAny_mapOrigins : ∀ type : Option FlowType,
    FlowType.textOrAny (FlowType.mapOrigins? f type) = FlowType.textOrAny type
  | none => rfl
  | some type => by simp [FlowType.mapOrigins?, FlowType.textOrAny, type.text_mapOrigins]

theorem FlowType.textAfter_mapOrigins (word : String) : ∀ type : Option FlowType,
    FlowType.textAfter word (FlowType.mapOrigins? f type) = FlowType.textAfter word type
  | none => rfl
  | some type => by simp [FlowType.mapOrigins?, FlowType.textAfter, type.text_mapOrigins]

theorem FunctionType.text_mapOrigins : ∀ type : FunctionType,
    (type.mapOrigins f).text = type.text
  | ⟨params, rest, result, typeParams⟩ => by
    simp [FunctionType.mapOrigins, FunctionType.text, TypeParam.texts_mapAllOrigins typeParams,
      FunctionParam.texts_mapAllOrigins 0 params,
      FunctionParam.restTexts_mapOrigins params.length rest, result.text_mapOrigins]

theorem FunctionParam.texts_mapAllOrigins (index : Nat) : ∀ params : List FunctionParam,
    FunctionParam.texts index (FunctionParam.mapAllOrigins f params) =
      FunctionParam.texts index params
  | [] => rfl
  | param :: rest => by
    simp [FunctionParam.mapAllOrigins, FunctionParam.texts, param.text_mapOrigins index,
      FunctionParam.texts_mapAllOrigins (index + 1) rest]

theorem FunctionParam.restTexts_mapOrigins (index : Nat) : ∀ param : Option FunctionParam,
    FunctionParam.restTexts index (FunctionParam.mapOrigins? f param) =
      FunctionParam.restTexts index param
  | none => rfl
  | some param => by
    simp [FunctionParam.mapOrigins?, FunctionParam.restTexts, param.restText_mapOrigins index]

theorem FunctionParam.text_mapOrigins (index : Nat) : ∀ param : FunctionParam,
    (param.mapOrigins f).text index = param.text index
  | ⟨name, type, isOptional⟩ => by
    simp [FunctionParam.mapOrigins, FunctionParam.text, FlowType.textOrAny_mapOrigins type]

theorem FunctionParam.restText_mapOrigins (index : Nat) : ∀ param : FunctionParam,
    (param.mapOrigins f).restText index = param.restText index
  | ⟨name, type, isOptional⟩ => by
    simp [FunctionParam.mapOrigins, FunctionParam.restText, FlowType.textOrAny_mapOrigins type]

@[simp] theorem TypeParam.texts_mapAllOrigins : ∀ params : List TypeParam,
    TypeParam.texts (TypeParam.mapAllOrigins f params) = TypeParam.texts params
  | [] => rfl
  | param :: rest => by
    simp [TypeParam.mapAllOrigins, TypeParam.texts, param.text_mapOrigins,
      TypeParam.texts_mapAllOrigins rest]

theorem TypeParam.text_mapOrigins : ∀ param : TypeParam, (param.mapOrigins f).text = param.text
  | ⟨name, bound, fallback⟩ => by
    simp [TypeParam.mapOrigins, TypeParam.text, FlowType.textAfter_mapOrigins _ bound,
      FlowType.textAfter_mapOrigins _ fallback]

theorem ObjectType.text_mapOrigins : ∀ type : ObjectType, (type.mapOrigins f).text = type.text
  | ⟨properties, indexers, calls⟩ => by
    simp [ObjectType.mapOrigins, ObjectType.text, ObjectMember.texts_mapAllOrigins properties,
      Indexer.texts_mapAllOrigins indexers, CallProperty.texts_mapAllOrigins calls]

theorem ObjectMember.texts_mapAllOrigins : ∀ members : List ObjectMember,
    ObjectMember.texts (ObjectMember.mapAllOrigins f members) = ObjectMember.texts members
  | [] => rfl
  | .property ⟨_, key, value, _, _⟩ :: rest => by
    simp [ObjectMember.mapAllOrigins, ObjectMember.texts, value.text_mapOrigins,
      ObjectMember.texts_mapAllOrigins rest]
  | .unsupported _ :: _ => rfl

theorem Indexer.texts_mapAllOrigins : ∀ indexers : List Indexer,
    Indexer.texts (Indexer.mapAllOrigins f indexers) = Indexer.texts indexers
  | [] => rfl
  | ⟨_, id, key, value, _⟩ :: rest => by
    simp [Indexer.mapAllOrigins, Indexer.texts, key.text_mapOrigins, value.text_mapOrigins,
      Indexer.texts_mapAllOrigins rest]

theorem CallProperty.texts_mapAllOrigins : ∀ calls : List CallProperty,
    CallProperty.texts (CallProperty.mapAllOrigins f calls) = CallProperty.texts calls
  | [] => rfl
  | ⟨_, ⟨params, rest, result, _⟩, _⟩ :: calls => by
    simp [CallProperty.mapAllOrigins, CallProperty.texts, FunctionType.mapOrigins,
      FunctionParam.texts_mapAllOrigins 0 params,
      FunctionParam.restTexts_mapOrigins params.length rest, result.text_mapOrigins,
      CallProperty.texts_mapAllOrigins calls]

end

@[simp] theorem FlowType.text?_mapOrigins (type : Option FlowType) :
    FlowType.text? (FlowType.mapOrigins? f type) = FlowType.text? type := by
  cases type with
  | none => rfl
  | some type => simp [FlowType.mapOrigins?, FlowType.text?]

theorem FunctionParam.params_mapAllOrigins (index : Nat) (params : List FunctionParam) :
    FunctionParam.params index (FunctionParam.mapAllOrigins f params) =
      FunctionParam.params index params := by
  induction params generalizing index with
  | nil => rfl
  | cons param rest ih =>
      obtain ⟨name, type, isOptional⟩ := param
      simp [FunctionParam.mapAllOrigins, FunctionParam.mapOrigins, FunctionParam.params, ih]

theorem FunctionParam.restParams_mapOrigins (index : Nat) (param : Option FunctionParam) :
    FunctionParam.restParams index (FunctionParam.mapOrigins? f param) =
      FunctionParam.restParams index param := by
  cases param with
  | none => rfl
  | some param =>
      obtain ⟨name, type, isOptional⟩ := param
      simp [FunctionParam.mapOrigins?, FunctionParam.mapOrigins, FunctionParam.restParams]

@[simp] theorem FunctionType.signature_mapOrigins (name : Option String) (type : FunctionType) :
    (type.mapOrigins f).signature name = type.signature name := by
  obtain ⟨params, rest, result, typeParams⟩ := type
  simp [FunctionType.mapOrigins, FunctionType.signature, FunctionParam.params_mapAllOrigins,
    FunctionParam.restParams_mapOrigins]

end

mutual

/-- A pattern with other origins. -/
def Pattern.mapOrigins (f : Origin → Origin) : Pattern → Pattern
  | .identifier id => .identifier (id.mapOrigins f)
  | .assignment origin left => .assignment (f origin) (left.mapOrigins f)
  | .rest element => .rest (element.mapOrigins f)
  | .object pattern => .object (pattern.mapOrigins f)
  | .unsupported kind => .unsupported kind

def RestElement.mapOrigins (f : Origin → Origin) : RestElement → RestElement
  | ⟨origin, argument, type⟩ => ⟨f origin, argument.mapOrigins f, FlowType.mapOrigins? f type⟩

def ObjectPattern.mapOrigins (f : Origin → Origin) : ObjectPattern → ObjectPattern
  | ⟨origin, members, type⟩ =>
    ⟨f origin, PatternMember.mapAllOrigins f members, FlowType.mapOrigins? f type⟩

def PatternMember.mapAllOrigins (f : Origin → Origin) : List PatternMember → List PatternMember
  | [] => []
  | member :: rest => member.mapOrigins f :: PatternMember.mapAllOrigins f rest

def PatternMember.mapOrigins (f : Origin → Origin) : PatternMember → PatternMember
  | .property origin key value computed =>
    .property (f origin) (key.mapOrigins f) (value.mapOrigins f) computed
  | .rest element => .rest (element.mapOrigins f)
  | .unsupported kind => .unsupported kind

end

section

variable (f : Origin → Origin)

@[simp] theorem destructuredKey?_mapOrigins (key : PropertyKey) (computed : Bool) :
    destructuredKey? (key.mapOrigins f) computed = destructuredKey? key computed := by
  cases key <;> cases computed <;> simp [PropertyKey.mapOrigins, destructuredKey?]

theorem FlowType.mapOrigins?_or (first second : Option FlowType) :
    (FlowType.mapOrigins? f first).or (FlowType.mapOrigins? f second) =
      FlowType.mapOrigins? f (first.or second) := by
  cases first <;> rfl

mutual

theorem ObjectPattern.param_mapOrigins : ∀ pattern : ObjectPattern,
    (pattern.mapOrigins f).param = pattern.param
  | ⟨_, members, type⟩ => by
    simp [ObjectPattern.mapOrigins, ObjectPattern.param,
      PatternMember.properties_mapAllOrigins members]

theorem PatternMember.properties_mapAllOrigins : ∀ members : List PatternMember,
    PatternMember.properties (PatternMember.mapAllOrigins f members) =
      PatternMember.properties members
  | [] => rfl
  | .property _ key value computed :: rest => by
    have hrest := PatternMember.properties_mapAllOrigins rest
    cases value with
    | assignment _ left =>
        simp [PatternMember.mapAllOrigins, PatternMember.mapOrigins, Pattern.mapOrigins,
          PatternMember.properties, left.nestedParam_mapOrigins, hrest]
    | object pattern =>
        simp [PatternMember.mapAllOrigins, PatternMember.mapOrigins, Pattern.mapOrigins,
          PatternMember.properties, Pattern.nestedParam, pattern.param_mapOrigins, hrest]
    | _ =>
        simp [PatternMember.mapAllOrigins, PatternMember.mapOrigins, Pattern.mapOrigins,
          PatternMember.properties, Pattern.nestedParam, hrest]
  | .rest _ :: _ => rfl
  | .unsupported _ :: _ => rfl

theorem Pattern.nestedParam_mapOrigins (key : String) : ∀ pattern : Pattern,
    (pattern.mapOrigins f).nestedParam key = pattern.nestedParam key
  | .identifier _ => rfl
  | .object pattern => by
    simp [Pattern.mapOrigins, Pattern.nestedParam, pattern.param_mapOrigins]
  | .assignment _ _ => rfl
  | .rest _ => rfl
  | .unsupported _ => rfl

end

theorem Pattern.param_mapOrigins (pattern : Pattern) :
    (pattern.mapOrigins f).param = pattern.param := by
  cases pattern with
  | identifier id => simp [Pattern.mapOrigins, Pattern.param]
  | assignment origin left =>
      cases left with
      | identifier id => simp [Pattern.mapOrigins, Pattern.param]
      | object pattern => simp [Pattern.mapOrigins, Pattern.param, pattern.param_mapOrigins]
      | _ => rfl
  | rest element =>
      obtain ⟨origin, argument, type⟩ := element
      cases argument with
      | identifier id =>
          simp [Pattern.mapOrigins, RestElement.mapOrigins, Pattern.param, FlowType.mapOrigins?_or]
      | _ => rfl
  | object pattern => simp [Pattern.mapOrigins, Pattern.param, pattern.param_mapOrigins]
  | unsupported kind => rfl

@[simp] theorem Pattern.params_mapOrigins (patterns : List Pattern) :
    Pattern.params (patterns.map (Pattern.mapOrigins f)) = Pattern.params patterns := by
  unfold Pattern.params
  induction patterns with
  | nil => rfl
  | cons pattern rest ih =>
      rw [List.map_cons, Traced.all, Traced.all, ih, pattern.param_mapOrigins]

end

end Ambient
