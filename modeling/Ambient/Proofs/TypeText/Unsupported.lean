import Ambient.Proofs.TypeText.Written

namespace Ambient

/-!
# Annotations that cannot be written

A type is written exactly if every node of it is of a known kind. Otherwise the kind of the
first one that is not, in the order of the text, is reported. A name is written by its
identifier's name alone: an annotation that the identifier carries there plays no part.
-/

/-- A part of a type that may be of an unknown kind, or a call signature in it. -/
inductive TypeNode
  | type (type : FlowType)
  | reference (name : TypeRef)
  | member (member : ObjectMember)
  | key (key : PropertyKey)
  | call (call : CallProperty)

/-- The kind of a node that is not of a known one. -/
def TypeNode.unsupported? : TypeNode → Option String
  | .type (.unsupported kind) => some kind
  | .reference (.unsupported kind) => some kind
  | .member (.unsupported kind) => some kind
  | .key (.unsupported kind) => some kind
  | _ => none

mutual

/-- The nodes of a type in the order of its text. With `inNames` those in the annotations of
identifiers that stand as names are among them. -/
def FlowType.nodes (inNames : Bool) : FlowType → List TypeNode
  | .generic name arguments =>
    .type (.generic name arguments) :: (name.nodes inNames ++ FlowType.allNodes inNames arguments)
  | .void => [.type .void]
  | .number => [.type .number]
  | .string => [.type .string]
  | .boolean => [.type .boolean]
  | .any => [.type .any]
  | .null => [.type .null]
  | .union types => .type (.union types) :: FlowType.allNodes inNames types
  | .intersection types => .type (.intersection types) :: FlowType.allNodes inNames types
  | .function type => .type (.function type) :: type.nodes inNames
  | .array element => .type (.array element) :: element.nodes inNames
  | .tuple elements => .type (.tuple elements) :: FlowType.allNodes inNames elements
  | .object type => .type (.object type) :: type.nodes inNames
  | .nullable inner => .type (.nullable inner) :: inner.nodes inNames
  | .stringLiteral value => [.type (.stringLiteral value)]
  | .numberLiteral value raw => [.type (.numberLiteral value raw)]
  | .booleanLiteral value => [.type (.booleanLiteral value)]
  | .unsupported kind => [.type (.unsupported kind)]

def FlowType.allNodes (inNames : Bool) : List FlowType → List TypeNode
  | [] => []
  | type :: rest => type.nodes inNames ++ FlowType.allNodes inNames rest

def FlowType.nodes? (inNames : Bool) : Option FlowType → List TypeNode
  | none => []
  | some type => type.nodes inNames

def TypeRef.nodes (inNames : Bool) : TypeRef → List TypeNode
  | .identifier id => .reference (.identifier id) :: id.nodes inNames
  | .qualified qualification id =>
    .reference (.qualified qualification id) :: (qualification.nodes inNames ++ id.nodes inNames)
  | .unsupported kind => [.reference (.unsupported kind)]

def Identifier.nodes (inNames : Bool) : Identifier → List TypeNode
  | ⟨_, _, type, _⟩ => if inNames then FlowType.nodes? inNames type else []

def Identifier.nodes? (inNames : Bool) : Option Identifier → List TypeNode
  | none => []
  | some id => id.nodes inNames

def PropertyKey.nodes (inNames : Bool) : PropertyKey → List TypeNode
  | .identifier id => .key (.identifier id) :: id.nodes inNames
  | .string literal => [.key (.string literal)]
  | .unsupported kind => [.key (.unsupported kind)]

def FunctionType.nodes (inNames : Bool) : FunctionType → List TypeNode
  | ⟨params, rest, result, typeParams⟩ =>
    TypeParam.allNodes inNames typeParams ++ (FunctionParam.allNodes inNames params ++
      (FunctionParam.nodes? inNames rest ++ result.nodes inNames))

def FunctionParam.nodes (inNames : Bool) : FunctionParam → List TypeNode
  | ⟨name, type, _⟩ => Identifier.nodes? inNames name ++ FlowType.nodes? inNames type

def FunctionParam.allNodes (inNames : Bool) : List FunctionParam → List TypeNode
  | [] => []
  | param :: rest => param.nodes inNames ++ FunctionParam.allNodes inNames rest

def FunctionParam.nodes? (inNames : Bool) : Option FunctionParam → List TypeNode
  | none => []
  | some param => param.nodes inNames

def TypeParam.nodes (inNames : Bool) : TypeParam → List TypeNode
  | ⟨_, bound, fallback⟩ => FlowType.nodes? inNames bound ++ FlowType.nodes? inNames fallback

def TypeParam.allNodes (inNames : Bool) : List TypeParam → List TypeNode
  | [] => []
  | param :: rest => param.nodes inNames ++ TypeParam.allNodes inNames rest

def ObjectType.nodes (inNames : Bool) : ObjectType → List TypeNode
  | ⟨properties, indexers, calls⟩ =>
    ObjectMember.allNodes inNames properties ++ (Indexer.allNodes inNames indexers ++
      CallProperty.allNodes inNames calls)

def ObjectMember.allNodes (inNames : Bool) : List ObjectMember → List TypeNode
  | [] => []
  | .property ⟨origin, key, value, isOptional, isStatic⟩ :: rest =>
    .member (.property ⟨origin, key, value, isOptional, isStatic⟩) ::
      (key.nodes inNames ++ (value.nodes inNames ++ ObjectMember.allNodes inNames rest))
  | .unsupported kind :: rest =>
    .member (.unsupported kind) :: ObjectMember.allNodes inNames rest

def Indexer.allNodes (inNames : Bool) : List Indexer → List TypeNode
  | [] => []
  | ⟨_, id, key, value, _⟩ :: rest =>
    Identifier.nodes? inNames id ++ (key.nodes inNames ++ (value.nodes inNames ++
      Indexer.allNodes inNames rest))

def CallProperty.allNodes (inNames : Bool) : List CallProperty → List TypeNode
  | [] => []
  | ⟨origin, value, isStatic⟩ :: rest =>
    .call ⟨origin, value, isStatic⟩ :: (value.nodes inNames ++ CallProperty.allNodes inNames rest)

end

@[simp] theorem Identifier.nodes_false (id : Identifier) : id.nodes false = [] := by
  obtain ⟨origin, name, type, optional⟩ := id
  rfl

@[simp] theorem Identifier.nodes?_false (id : Option Identifier) :
    Identifier.nodes? false id = [] := by
  cases id with
  | none => rfl
  | some id => exact id.nodes_false

/-- The kind of the first node that is not of a known one. -/
def firstUnsupported? (nodes : List TypeNode) : Option String :=
  nodes.findSome? TypeNode.unsupported?

@[simp] theorem firstUnsupported?_nil : firstUnsupported? [] = none := rfl

@[simp] theorem firstUnsupported?_cons (node : TypeNode) (nodes : List TypeNode) :
    firstUnsupported? (node :: nodes) = node.unsupported?.or (firstUnsupported? nodes) := by
  rw [firstUnsupported?, List.findSome?_cons]
  cases node.unsupported? <;> rfl

@[simp] theorem firstUnsupported?_append (nodes others : List TypeNode) :
    firstUnsupported? (nodes ++ others) =
      (firstUnsupported? nodes).or (firstUnsupported? others) :=
  List.findSome?_append

/-- The call signatures among the nodes have no type parameters. -/
def BareCalls (nodes : List TypeNode) : Prop :=
  ∀ call, .call call ∈ nodes → call.value.typeParams = []

theorem BareCalls.append {nodes others : List TypeNode} (h : BareCalls (nodes ++ others)) :
    BareCalls nodes ∧ BareCalls others :=
  ⟨fun call hcall => h call (List.mem_append_left others hcall),
    fun call hcall => h call (List.mem_append_right nodes hcall)⟩

theorem BareCalls.tail {node : TypeNode} {nodes : List TypeNode} (h : BareCalls (node :: nodes)) :
    BareCalls nodes :=
  fun call hcall => h call (List.mem_cons_of_mem node hcall)

theorem TypeRef.text_failsAs : ∀ name : TypeRef,
    name.text.FailsAs (firstUnsupported? (name.nodes false))
  | .identifier id => by
      simp only [nodes, Identifier.nodes_false, firstUnsupported?_cons, firstUnsupported?_nil]
      exact Written.failsAs_ok _
  | .qualified qualification id => by
      simp only [nodes, Identifier.nodes_false, List.append_nil, firstUnsupported?_cons,
        TypeNode.unsupported?, Option.none_or]
      exact qualification.text_failsAs.map _
  | .unsupported kind => Written.failsAs_error kind

theorem PropertyKey.written_failsAs (key : PropertyKey) :
    key.written.FailsAs (firstUnsupported? (key.nodes false)) := by
  cases key with
  | identifier id =>
      simp only [nodes, Identifier.nodes_false, firstUnsupported?_cons, firstUnsupported?_nil]
      exact Written.failsAs_ok _
  | string literal => exact Written.failsAs_ok _
  | unsupported kind => exact Written.failsAs_error kind

mutual

theorem FlowType.text_failsAs : ∀ type : FlowType, BareCalls (type.nodes false) →
    type.text.FailsAs (firstUnsupported? (type.nodes false))
  | .generic name arguments => by
      intro h
      have harguments := FlowType.texts_failAs arguments h.tail.append.2
      rw [FlowType.nodes, firstUnsupported?_cons, firstUnsupported?_append]
      exact name.text_failsAs.bind fun _ => harguments.map _
  | .void => fun _ => Written.failsAs_ok _
  | .number => fun _ => Written.failsAs_ok _
  | .string => fun _ => Written.failsAs_ok _
  | .boolean => fun _ => Written.failsAs_ok _
  | .any => fun _ => Written.failsAs_ok _
  | .null => fun _ => Written.failsAs_ok _
  | .union types => fun h => (FlowType.operands_failAs .union types h.tail).map _
  | .intersection types => fun h => (FlowType.operands_failAs .intersection types h.tail).map _
  | .function type => fun h => (type.text_failsAs h.tail).map _
  | .array element => fun h => (element.text_failsAs h.tail).map _
  | .tuple elements => fun h => (FlowType.texts_failAs elements h.tail).map _
  | .object type => fun h => type.text_failsAs h.tail
  | .nullable inner => fun h => (inner.text_failsAs h.tail).map _
  | .stringLiteral _ => fun _ => Written.failsAs_ok _
  | .numberLiteral _ _ => fun _ => Written.failsAs_ok _
  | .booleanLiteral _ => fun _ => Written.failsAs_ok _
  | .unsupported kind => fun _ => Written.failsAs_error kind

theorem FlowType.texts_failAs : ∀ types : List FlowType, BareCalls (FlowType.allNodes false types) →
    (FlowType.texts types).FailsAs (firstUnsupported? (FlowType.allNodes false types))
  | [] => fun _ => Written.failsAs_ok _
  | type :: rest => by
      intro h
      have hrest := FlowType.texts_failAs rest h.append.2
      rw [FlowType.allNodes, firstUnsupported?_append]
      exact (type.text_failsAs h.append.1).bind fun _ => hrest.map _

theorem FlowType.operands_failAs (context : Binding) :
    ∀ types : List FlowType, BareCalls (FlowType.allNodes false types) →
      (FlowType.operands context types).FailsAs
        (firstUnsupported? (FlowType.allNodes false types))
  | [] => fun _ => Written.failsAs_ok _
  | type :: rest => by
      intro h
      have hrest := FlowType.operands_failAs context rest h.append.2
      rw [FlowType.allNodes, firstUnsupported?_append]
      exact (type.text_failsAs h.append.1).bind fun _ => hrest.map _

theorem FlowType.textOrAny_failsAs :
    ∀ type : Option FlowType, BareCalls (FlowType.nodes? false type) →
      (FlowType.textOrAny type).FailsAs (firstUnsupported? (FlowType.nodes? false type))
  | none => fun _ => Written.failsAs_ok _
  | some type => type.text_failsAs

theorem FlowType.textAfter_failsAs (word : String) :
    ∀ type : Option FlowType, BareCalls (FlowType.nodes? false type) →
      (FlowType.textAfter word type).FailsAs (firstUnsupported? (FlowType.nodes? false type))
  | none => fun _ => Written.failsAs_ok _
  | some type => fun h => (type.text_failsAs h).map _

theorem FunctionType.text_failsAs : ∀ type : FunctionType, BareCalls (type.nodes false) →
    type.text.FailsAs (firstUnsupported? (type.nodes false))
  | ⟨params, rest, result, typeParams⟩ => by
      intro h
      obtain ⟨htypeParams, h⟩ := BareCalls.append h
      obtain ⟨hparams, h⟩ := h.append
      obtain ⟨hrest, hresult⟩ := h.append
      simp only [FunctionType.nodes, firstUnsupported?_append]
      refine (TypeParam.texts_failAs typeParams htypeParams).bind fun _ => ?_
      refine (FunctionParam.texts_failAs 0 params hparams).bind fun _ => ?_
      refine (FunctionParam.restTexts_failAs params.length rest hrest).bind fun _ => ?_
      exact (result.text_failsAs hresult).map _

theorem FunctionParam.texts_failAs (index : Nat) :
    ∀ params : List FunctionParam, BareCalls (FunctionParam.allNodes false params) →
      (FunctionParam.texts index params).FailsAs
        (firstUnsupported? (FunctionParam.allNodes false params))
  | [] => fun _ => Written.failsAs_ok _
  | param :: rest => by
      intro h
      have hrest := FunctionParam.texts_failAs (index + 1) rest h.append.2
      rw [FunctionParam.allNodes, firstUnsupported?_append]
      exact (param.text_failsAs index h.append.1).bind fun _ => hrest.map _

theorem FunctionParam.restTexts_failAs (index : Nat) :
    ∀ rest : Option FunctionParam, BareCalls (FunctionParam.nodes? false rest) →
      (FunctionParam.restTexts index rest).FailsAs
        (firstUnsupported? (FunctionParam.nodes? false rest))
  | none => fun _ => Written.failsAs_ok _
  | some param => fun h => (param.restText_failsAs index h).map _

theorem FunctionParam.text_failsAs (index : Nat) :
    ∀ param : FunctionParam, BareCalls (param.nodes false) →
      (param.text index).FailsAs (firstUnsupported? (param.nodes false))
  | ⟨name, type, isOptional⟩ => by
      rw [FunctionParam.nodes, Identifier.nodes?_false, List.nil_append]
      exact fun h => (FlowType.textOrAny_failsAs type h).map _

theorem FunctionParam.restText_failsAs (index : Nat) :
    ∀ param : FunctionParam, BareCalls (param.nodes false) →
      (param.restText index).FailsAs (firstUnsupported? (param.nodes false))
  | ⟨name, type, isOptional⟩ => by
      rw [FunctionParam.nodes, Identifier.nodes?_false, List.nil_append]
      exact fun h => (FlowType.textOrAny_failsAs type h).map _

theorem TypeParam.texts_failAs :
    ∀ params : List TypeParam, BareCalls (TypeParam.allNodes false params) →
      (TypeParam.texts params).FailsAs (firstUnsupported? (TypeParam.allNodes false params))
  | [] => fun _ => Written.failsAs_ok _
  | param :: rest => by
      intro h
      have hrest := TypeParam.texts_failAs rest h.append.2
      rw [TypeParam.allNodes, firstUnsupported?_append]
      exact (param.text_failsAs h.append.1).bind fun _ => hrest.map _

theorem TypeParam.text_failsAs : ∀ param : TypeParam, BareCalls (param.nodes false) →
    param.text.FailsAs (firstUnsupported? (param.nodes false))
  | ⟨name, bound, fallback⟩ => by
      intro h
      obtain ⟨hbound, hfallback⟩ := BareCalls.append h
      rw [TypeParam.nodes, firstUnsupported?_append]
      refine (FlowType.textAfter_failsAs " extends " bound hbound).bind fun _ => ?_
      exact (FlowType.textAfter_failsAs " = " fallback hfallback).map _

theorem ObjectType.text_failsAs : ∀ type : ObjectType, BareCalls (type.nodes false) →
    type.text.FailsAs (firstUnsupported? (type.nodes false))
  | ⟨properties, indexers, calls⟩ => by
      intro h
      obtain ⟨hproperties, h⟩ := BareCalls.append h
      obtain ⟨hindexers, hcalls⟩ := h.append
      simp only [ObjectType.nodes, firstUnsupported?_append]
      refine (ObjectMember.texts_failAs properties hproperties).bind fun _ => ?_
      refine (Indexer.texts_failAs indexers hindexers).bind fun _ => ?_
      exact (CallProperty.texts_failAs calls hcalls).map _

theorem ObjectMember.texts_failAs :
    ∀ members : List ObjectMember, BareCalls (ObjectMember.allNodes false members) →
      (ObjectMember.texts members).FailsAs
        (firstUnsupported? (ObjectMember.allNodes false members))
  | [] => fun _ => Written.failsAs_ok _
  | .property ⟨_, key, value, _, _⟩ :: rest => by
      intro h
      obtain ⟨hvalue, hrest⟩ := h.tail.append.2.append
      simp only [ObjectMember.allNodes, firstUnsupported?_cons, firstUnsupported?_append,
        TypeNode.unsupported?, Option.none_or]
      refine key.written_failsAs.bind fun _ => ?_
      refine (value.text_failsAs hvalue).bind fun _ => ?_
      exact (ObjectMember.texts_failAs rest hrest).map _
  | .unsupported kind :: _ => fun _ => Written.failsAs_error kind

theorem Indexer.texts_failAs :
    ∀ indexers : List Indexer, BareCalls (Indexer.allNodes false indexers) →
      (Indexer.texts indexers).FailsAs (firstUnsupported? (Indexer.allNodes false indexers))
  | [] => fun _ => Written.failsAs_ok _
  | ⟨_, id, key, value, _⟩ :: rest => by
      intro h
      obtain ⟨hkey, h⟩ := h.append.2.append
      obtain ⟨hvalue, hrest⟩ := h.append
      simp only [Indexer.allNodes, firstUnsupported?_append, Identifier.nodes?_false,
        List.nil_append]
      refine (key.text_failsAs hkey).bind fun _ => ?_
      refine (value.text_failsAs hvalue).bind fun _ => ?_
      exact (Indexer.texts_failAs rest hrest).map _

theorem CallProperty.texts_failAs :
    ∀ calls : List CallProperty, BareCalls (CallProperty.allNodes false calls) →
      (CallProperty.texts calls).FailsAs (firstUnsupported? (CallProperty.allNodes false calls))
  | [] => fun _ => Written.failsAs_ok _
  | ⟨origin, ⟨params, restParam, result, typeParams⟩, isStatic⟩ :: rest => by
      intro h
      -- The text leaves type parameters out, so they must not hide an unsupported node.
      obtain rfl : typeParams = [] := h _ List.mem_cons_self
      obtain ⟨hcall, hrest⟩ := h.tail.append
      obtain ⟨hparams, hcall⟩ := hcall.append.2.append
      obtain ⟨hrestParam, hresult⟩ := hcall.append
      simp only [CallProperty.allNodes, FunctionType.nodes, TypeParam.allNodes, List.nil_append,
        firstUnsupported?_cons, firstUnsupported?_append, TypeNode.unsupported?, Option.none_or,
        Option.or_assoc]
      refine (FunctionParam.texts_failAs 0 params hparams).bind fun _ => ?_
      refine (FunctionParam.restTexts_failAs params.length restParam hrestParam).bind fun _ => ?_
      refine (result.text_failsAs hresult).bind fun _ => ?_
      exact (CallProperty.texts_failAs rest hrest).map _

end

theorem firstUnsupported?_eq_none_iff {nodes : List TypeNode} :
    firstUnsupported? nodes = none ↔ ∀ node ∈ nodes, node.unsupported? = none :=
  List.findSome?_eq_none_iff

theorem firstUnsupported?_eq_some_iff {nodes : List TypeNode} {kind : String} :
    firstUnsupported? nodes = some kind ↔ ∃ before node after, nodes = before ++ node :: after ∧
      (∀ other ∈ before, other.unsupported? = none) ∧ node.unsupported? = some kind := by
  rw [firstUnsupported?, List.findSome?_eq_some_iff]
  constructor
  · rintro ⟨before, node, after, hsplit, hnode, hbefore⟩
    exact ⟨before, node, after, hsplit, hbefore, hnode⟩
  · rintro ⟨before, node, after, hsplit, hbefore, hnode⟩
    exact ⟨before, node, after, hsplit, hnode, hbefore⟩

/-- A type whose call signatures have no type parameters has a text exactly if every node of it
is of a known kind. Otherwise the first one that is not is reported. -/
theorem FlowType.text_fails_with_first (type : FlowType) (hcalls : BareCalls (type.nodes false)) :
    ((∃ text, type.text = .ok text) ↔ ∀ node ∈ type.nodes false, node.unsupported? = none) ∧
      ∀ error, type.text = .error error ↔
        ∃ before node after, type.nodes false = before ++ node :: after ∧
          (∀ other ∈ before, other.unsupported? = none) ∧
          node.unsupported? = some error.kind := by
  have hfails := type.text_failsAs hcalls
  constructor
  · rw [hfails.exists_ok_iff, firstUnsupported?_eq_none_iff]
  · intro error
    rw [hfails.eq_error_iff, firstUnsupported?_eq_some_iff]

/-- A function type with nodes of four unknown kinds, the first of them a member's name. -/
def FlowType.severalUnknown : FlowType :=
  .function
    ⟨[⟨some ⟨{}, "a", none, false⟩, some (.tuple [.void]), false⟩,
      ⟨none, some (.object
        ⟨[.property ⟨{}, .unsupported "PrivateName", .unsupported "TypeofTypeAnnotation", false,
          false⟩], [], [⟨{}, ⟨[], none, .unsupported "ExistsTypeAnnotation", []⟩, false⟩]⟩), true⟩],
      none, .unsupported "SymbolTypeAnnotation", [⟨"T", some (.array .string), none⟩]⟩

theorem FlowType.text_fails_with_first_severalUnknown :
    BareCalls (severalUnknown.nodes false) ∧ severalUnknown.text = .error ⟨"PrivateName"⟩ ∧
      ¬ ∀ node ∈ severalUnknown.nodes false, node.unsupported? = none := by
  have hcalls : BareCalls (severalUnknown.nodes false) := by
    intro call hcall
    have hcase : call = ⟨{}, ⟨[], none, .unsupported "ExistsTypeAnnotation", []⟩, false⟩ := by
      simpa [severalUnknown, nodes, allNodes, nodes?, FunctionType.nodes, TypeParam.allNodes,
        TypeParam.nodes, FunctionParam.allNodes, FunctionParam.nodes, FunctionParam.nodes?,
        ObjectType.nodes, ObjectMember.allNodes, PropertyKey.nodes, Indexer.allNodes,
        CallProperty.allNodes] using hcall
    rw [hcase]
  obtain ⟨hok, herror⟩ := severalUnknown.text_fails_with_first hcalls
  have hfails : severalUnknown.text = .error ⟨"PrivateName"⟩ :=
    (herror ⟨"PrivateName"⟩).mpr (firstUnsupported?_eq_some_iff.mp rfl)
  refine ⟨hcalls, hfails, fun hall => ?_⟩
  obtain ⟨text, htext⟩ := hok.mpr hall
  rw [hfails] at htext
  cases htext

/-- A function type whose parameter is of a known type, with an annotation of an unknown kind on
the parameter's name. -/
def FlowType.annotatedName : FlowType :=
  .function
    ⟨[⟨some ⟨{}, "x", some (.unsupported "ExistsTypeAnnotation"), false⟩, some .string, false⟩],
      none, .void, []⟩

/-- An annotation on a name is not looked at, of whatever kind it is. -/
theorem FlowType.annotated_name_is_written :
    BareCalls (annotatedName.nodes true) ∧
      annotatedName.text = .ok "((x: string) => void)" ∧
      ∃ node ∈ annotatedName.nodes true, node.unsupported? = some "ExistsTypeAnnotation" := by
  refine ⟨?_, by rfl, .type (.unsupported "ExistsTypeAnnotation"), ?_, rfl⟩
  · intro call hcall
    simp [annotatedName, nodes, nodes?, FunctionType.nodes, TypeParam.allNodes,
      FunctionParam.allNodes, FunctionParam.nodes, FunctionParam.nodes?, Identifier.nodes,
      Identifier.nodes?] at hcall
  · simp [annotatedName, nodes, nodes?, FunctionType.nodes, FunctionParam.allNodes,
      FunctionParam.nodes, Identifier.nodes, Identifier.nodes?]

end Ambient
