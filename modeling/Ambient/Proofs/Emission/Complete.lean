import Ambient.Proofs.Emission.Declared
import Ambient.Proofs.Emission.Quiet
import Ambient.Proofs.Emission.WellFormed

namespace Ambient

/-!
# Complete declarations

A declaration is complete if every specifier, declarator, parameter and member of the
source has its counterpart, in order. A statement whose emission notes nothing has a
complete declaration, so whatever is left out is noted. Only the parameters of a getter
leave no trace: a getter becomes a property.
-/

def ImportSpecifier.isNamed : ImportSpecifier → Bool
  | .named _ _ _ => true
  | _ => false

inductive ImportSpecifier.DeclaredAs : ImportSpecifier → Declaration → Prop
  | named (origin : Origin) (imported bound : Identifier) :
      ImportSpecifier.DeclaredAs (.named origin imported bound)
        ⟨origin.comments, .importSpecifier imported.name bound.name⟩
  | whole (origin : Origin) (bound : Identifier) :
      ImportSpecifier.DeclaredAs (.whole origin bound) ⟨origin.comments, .wholeSpecifier bound.name⟩
  | all (origin : Origin) (bound : Identifier) :
      ImportSpecifier.DeclaredAs (.all origin bound) ⟨origin.comments, .allSpecifier bound.name⟩

inductive ExportSpecifier.DeclaredAs : ExportSpecifier → Declaration → Prop
  | named (origin : Origin) (bound exported : Identifier) :
      ExportSpecifier.DeclaredAs (.named origin bound exported)
        ⟨origin.comments, .exportSpecifier exported.name (some bound.name)⟩

inductive Declarator.DeclaredAs : Declarator → Declaration → Prop
  | name {d : Declarator} {id : Identifier} {text : String} (named : d.id = .identifier id)
      (type_written : FlowType.textOrAny id.type = .ok text) :
      Declarator.DeclaredAs d ⟨d.origin.comments, .declarator id.name text⟩

/-- A class member with its counterpart. A method has a parameter for each of its
parameters; a getter becomes a property, which has none. -/
inductive ClassMember.DeclaredAs : ClassMember → Declaration → Prop
  | construct {method : ClassMethod} {comments : List Comment} {params : List Param}
      (kind : method.kind = .constructor)
      (each_param : List.Forall₂ Pattern.Becomes method.params params) :
      ClassMember.DeclaredAs (.method method) ⟨comments, .classConstructor params⟩
  | method {method : ClassMethod} {comments : List Comment} {name : String} {params : List Param}
      {result : Option String} {typeParams : List String} (kind : method.kind = .method)
      (named : method.key.declaredName method.computed = some name)
      (each_param : List.Forall₂ Pattern.Becomes method.params params) :
      ClassMember.DeclaredAs (.method method)
        ⟨comments, .classMethod ⟨some name, params, result, typeParams⟩ method.isStatic⟩
  | getter {method : ClassMethod} {comments : List Comment} {name text : String}
      (kind : method.kind = .get) (named : method.key.declaredName method.computed = some name)
      (type_written : FlowType.textOrAny method.result = .ok text) :
      ClassMember.DeclaredAs (.method method)
        ⟨comments, .classProperty name text method.isStatic⟩
  | property {property : ClassProperty} {comments : List Comment} {name text : String}
      (named : property.key.declaredName property.computed = some name)
      (type_written : FlowType.textOrAny property.type = .ok text) :
      ClassMember.DeclaredAs (.property property)
        ⟨comments, .classProperty name text property.isStatic⟩

inductive Implemented.DeclaredAs : Implemented → Declaration → Prop
  | name {implemented : Implemented} {arguments : List String}
      (types_written : FlowType.texts implemented.arguments = .ok arguments) :
      Implemented.DeclaredAs implemented
        ⟨implemented.origin.comments, .implemented implemented.id.name arguments⟩

/-- A property of an interface with its counterpart: a method with a parameter for each of
those of its function type, or else a property. -/
inductive ObjectMember.DeclaredAs : ObjectMember → Declaration → Prop
  | method {property : ObjectProperty} {type : FunctionType} {comments : List Comment}
      {name : String} {signature : Signature} (value : property.value = .function type)
      (named : property.key.declaredName false = some name) (signed : signature.name = some name)
      (each_param : List.Forall₂ ParamSlot.Becomes type.slots signature.params) :
      ObjectMember.DeclaredAs (.property property)
        ⟨comments, .interfaceMethod signature property.isStatic property.optional⟩
  | property {property : ObjectProperty} {comments : List Comment} {name text : String}
      (named : property.key.declaredName false = some name)
      (type_written : property.value.text = .ok text) :
      ObjectMember.DeclaredAs (.property property)
        ⟨comments, .interfaceProperty name text property.isStatic property.optional⟩

inductive Indexer.DeclaredAs : Indexer → Declaration → Prop
  | index {indexer : Indexer} {keyType valueType : String}
      (key_written : indexer.key.text = .ok keyType)
      (value_written : indexer.value.text = .ok valueType) :
      Indexer.DeclaredAs indexer ⟨indexer.origin.comments,
        .interfaceIndexer (indexName indexer.id) keyType valueType indexer.isStatic⟩

inductive CallProperty.DeclaredAs : CallProperty → Declaration → Prop
  | call {call : CallProperty} {signature : Signature} (unnamed : signature.name = none)
      (each_param : List.Forall₂ ParamSlot.Becomes call.value.slots signature.params) :
      CallProperty.DeclaredAs call ⟨call.origin.comments, .interfaceCall signature⟩

/-- A statement with a complete declaration: each of its parts has one counterpart, and
their order is that of the source. The specifiers of an import that stand in braces come
after the others. -/
inductive Statement.DeclaredWhole : Statement → Declaration → Prop
  | effectImport {d : ImportDeclaration} {source : String} (none_given : d.specifiers = []) :
      Statement.DeclaredWhole (.imports d) ⟨d.origin.comments, .effectImport source⟩
  | imports {d : ImportDeclaration} {enclosed : Bool} {specifiers : List Declaration}
      {source : String} (each_specifier : List.Forall₂ ImportSpecifier.DeclaredAs
        (d.specifiers.filter (!·.isNamed) ++ d.specifiers.filter (·.isNamed)) specifiers) :
      Statement.DeclaredWhole (.imports d) ⟨d.origin.comments, .imports enclosed specifiers source⟩
  | exportAll {d : ExportAll} {source : String} :
      Statement.DeclaredWhole (.exportAll d) ⟨d.origin.comments, .exportAll source⟩
  | exported {origin : Origin} {inner : Statement} {specifiers : List ExportSpecifier}
      {source : Option StringLiteral} {declared : Declaration}
      (whole : Statement.DeclaredWhole inner declared) :
      Statement.DeclaredWhole (.exportNamed origin (some inner) specifiers source)
        ⟨origin.comments, .exported declared⟩
  | exportList {origin : Origin} {specifiers : List ExportSpecifier}
      {source : Option StringLiteral} {declared : List Declaration} {from? : Option String}
      (each_specifier : List.Forall₂ ExportSpecifier.DeclaredAs specifiers declared) :
      Statement.DeclaredWhole (.exportNamed origin none specifiers source)
        ⟨origin.comments, .exportList declared from?⟩
  | «variables» {d : VariableDeclaration} {declarators : List Declaration}
      (each_declarator : List.Forall₂ Declarator.DeclaredAs d.declarators declarators) :
      Statement.DeclaredWhole (.variables d) ⟨d.origin.comments, .variables d.keyword declarators⟩
  | function {d : FunctionDeclaration} {id : Identifier} {comments : List Comment}
      {params : List Param} {result : Option String} {typeParams : List String}
      (named : d.id = some id) (each_param : List.Forall₂ Pattern.Becomes d.params params) :
      Statement.DeclaredWhole (.function d)
        ⟨comments, .function ⟨some id.name, params, result, typeParams⟩⟩
  | classes {d : ClassDeclaration} {id : Identifier} {comments : List Comment}
      {superName : Option String} {members interfaces : List Declaration}
      {typeParams superArguments : List String} (named : d.id = some id)
      (each_member : List.Forall₂ ClassMember.DeclaredAs d.members members)
      (each_interface : List.Forall₂ Implemented.DeclaredAs d.implemented interfaces) :
      Statement.DeclaredWhole (.classes d) ⟨comments,
        .classes id.name superName members typeParams superArguments interfaces⟩
  | interface {d : InterfaceDeclaration} {comments : List Comment} {bases typeParams : List String}
      {properties indexers calls : List Declaration}
      (each_property : List.Forall₂ ObjectMember.DeclaredAs d.body.properties properties)
      (each_indexer : List.Forall₂ Indexer.DeclaredAs d.body.indexers indexers)
      (each_call : List.Forall₂ CallProperty.DeclaredAs d.body.calls calls) :
      Statement.DeclaredWhole (.interface d) ⟨comments,
        .interface d.id.name (properties ++ indexers ++ calls) bases typeParams⟩

open Traced

mutual

theorem ObjectPattern.losesNothing_param : ∀ pattern : ObjectPattern,
    pattern.param.LosesNothing fun _ => True
  | ⟨_, members, type⟩ => by
      refine whenQuiet_lift_bind fun text _ => ?_
      exact (PatternMember.losesNothing_properties members).bind fun properties _ =>
        losesNothing_pure trivial

theorem PatternMember.losesNothing_properties : ∀ members : List PatternMember,
    (PatternMember.properties members).LosesNothing fun _ => True
  | [] => losesNothing_pure trivial
  | .property origin key value computed :: rest => by
      have hnested : ∀ name, (value.splitDefault.1.nestedParam name).LosesNothing fun _ => True := by
        cases value with
        | assignment _ left => exact fun name => left.losesNothing_nestedParam name
        | identifier id => exact fun name => (Pattern.identifier id).losesNothing_nestedParam name
        | object pattern => exact fun name => (Pattern.object pattern).losesNothing_nestedParam name
        | rest element => exact fun name => (Pattern.rest element).losesNothing_nestedParam name
        | unsupported kind =>
            exact fun name => (Pattern.unsupported kind).losesNothing_nestedParam name
      rw [PatternMember.properties_cons]
      cases destructuredKey? key computed with
      | none => exact whenQuiet_leaveOut (by simp [Event.severity])
      | some name =>
          refine (hnested name).bind fun bound _ => ?_
          exact (PatternMember.losesNothing_properties rest).bind fun others _ =>
            losesNothing_pure trivial
  | .rest _ :: _ => whenQuiet_leaveOut (by simp [Event.severity])
  | .unsupported _ :: _ => whenQuiet_leaveOut (by simp [Event.severity])

theorem Pattern.losesNothing_nestedParam : ∀ (pattern : Pattern) (key : String),
    (pattern.nestedParam key).LosesNothing fun _ => True
  | .identifier _, _ => losesNothing_pure trivial
  | .object pattern, _ =>
      pattern.losesNothing_param.bind fun _ _ => losesNothing_pure trivial
  | .assignment _ _, _ => whenQuiet_leaveOut (by simp [Event.severity])
  | .rest _, _ => whenQuiet_leaveOut (by simp [Event.severity])
  | .unsupported _, _ => whenQuiet_leaveOut (by simp [Event.severity])

end

theorem Pattern.losesNothing_param (pattern : Pattern) :
    pattern.param.LosesNothing fun _ => True := by
  have htyped : ∀ (type : Option FlowType) (make : Option String → Param),
      (do
        let type ← FlowType.text? type
        return some (make type) : Traced (Option Param)).LosesNothing fun _ => True :=
    fun type make => whenQuiet_lift_bind fun _ _ => losesNothing_pure trivial
  have hobject : ∀ (inner : ObjectPattern) (make : ObjectParameter → Param),
      (do return (← inner.param).map make : Traced (Option Param)).LosesNothing fun _ => True :=
    fun inner make => inner.losesNothing_param.bind fun _ _ => losesNothing_pure trivial
  match pattern with
  | .identifier id => exact htyped id.type _
  | .assignment _ (.identifier id) => exact htyped id.type _
  | .assignment _ (.object inner) => exact hobject inner _
  | .object inner => exact hobject inner _
  | .rest ⟨_, .identifier id, type⟩ => exact htyped (type.or id.type) _
  | .assignment _ (.assignment _ _) => exact whenQuiet_leaveOut (by simp [Event.severity])
  | .assignment _ (.rest _) => exact whenQuiet_leaveOut (by simp [Event.severity])
  | .assignment _ (.unsupported _) => exact whenQuiet_leaveOut (by simp [Event.severity])
  | .rest ⟨_, .assignment _ _, _⟩ => exact whenQuiet_leaveOut (by simp [Event.severity])
  | .rest ⟨_, .rest _, _⟩ => exact whenQuiet_leaveOut (by simp [Event.severity])
  | .rest ⟨_, .object _, _⟩ => exact whenQuiet_leaveOut (by simp [Event.severity])
  | .rest ⟨_, .unsupported _, _⟩ => exact whenQuiet_leaveOut (by simp [Event.severity])
  | .unsupported _ => exact whenQuiet_leaveOut (by simp [Event.severity])

theorem Pattern.losesNothing_params (patterns : List Pattern) :
    (Pattern.params patterns).LosesNothing fun params =>
      List.Forall₂ Pattern.Becomes patterns params :=
  (losesNothing_all Pattern.losesNothing_param patterns).imp fun _ => Pattern.becomes_of_params

theorem ImportSpecifier.losesNothing_declaration (specifier : ImportSpecifier) :
    specifier.declaration.LosesNothing specifier.DeclaredAs := by
  cases specifier with
  | named origin imported bound => exact losesNothing_pure (.named origin imported bound)
  | whole origin bound => exact losesNothing_pure (.whole origin bound)
  | all origin bound => exact losesNothing_pure (.all origin bound)
  | unsupported kind => exact whenQuiet_leaveOut (by simp [Event.severity])

theorem ImportSpecifier.DeclaredAs.isNamedSpecifier_eq {specifier : ImportSpecifier}
    {declared : Declaration} (h : specifier.DeclaredAs declared) :
    declared.form.isNamedSpecifier = specifier.isNamed := by
  cases h <;> rfl

theorem ImportDeclaration.whenQuiet_declaration (d : ImportDeclaration) (root : String) :
    (d.declaration root).WhenQuiet (Statement.imports d).DeclaredWhole := by
  refine (whenQuiet_keep ImportSpecifier.losesNothing_declaration d.specifiers).bind
    fun kept hkept => whenQuiet_pure ?_
  cases hempty : kept.isEmpty with
  | true =>
      rw [List.isEmpty_iff] at hempty
      subst hempty
      exact .effectImport (List.forall₂_nil_right_iff.mp hkept)
  | false =>
      have hfilter : ∀ mark : Bool, List.Forall₂ ImportSpecifier.DeclaredAs
          (d.specifiers.filter (·.isNamed == mark))
          (kept.filter (·.form.isNamedSpecifier == mark)) := fun mark =>
        List.rel_filter (fun _ _ h => by simp [h.isNamedSpecifier_eq]) hkept
      have hnamed := hfilter true
      have hbare := hfilter false
      simp only [beq_true, beq_false] at hnamed hbare
      exact .imports (List.rel_append hbare hnamed)

namespace Options

variable (options : Options)

theorem losesNothing_exportSpecifier (specifier : ExportSpecifier) :
    (options.exportSpecifier specifier).LosesNothing specifier.DeclaredAs := by
  cases specifier with
  | unsupported kind => exact whenQuiet_leaveOut (by simp [Event.severity])
  | named origin bound exported =>
      refine whenQuiet_unless_excluded ?_
      refine whenQuiet_unless_excluded ?_
      exact losesNothing_pure (.named origin bound exported)

theorem losesNothing_declarator (d : Declarator) :
    (options.declarator d).LosesNothing d.DeclaredAs := by
  unfold Options.declarator
  split
  next id hid =>
      refine whenQuiet_unless_excluded ?_
      refine whenQuiet_lift_bind fun text htext => ?_
      exact losesNothing_pure (.name hid htext)
  next => exact whenQuiet_leaveOut (by simp [Event.severity])

theorem losesNothing_memberName (key : PropertyKey) (computed : Bool) :
    (options.memberName key computed).LosesNothing fun name =>
      key.declaredName computed = some name := by
  cases key with
  | identifier id =>
      refine whenQuiet_unless_excluded ?_
      exact losesNothing_pure rfl
  | string literal =>
      refine whenQuiet_unless_excluded ?_
      exact losesNothing_pure rfl
  | unsupported kind => exact whenQuiet_leaveOut (by simp [Event.severity])

theorem losesNothing_classMethod (method : ClassMethod) :
    (options.classMethod method).LosesNothing (ClassMember.method method).DeclaredAs := by
  refine (Pattern.losesNothing_params method.params).bind fun params hparams => ?_
  dsimp only
  split
  next hkind => exact losesNothing_pure (.construct hkind hparams)
  next hkind =>
      refine (options.losesNothing_memberName method.key method.computed).bind fun name hname => ?_
      dsimp only
      split
      next => exact whenQuiet_leaveOut (by simp [Event.severity])
      next hget =>
          refine whenQuiet_lift_bind fun text htext => ?_
          exact losesNothing_pure (.getter hget hname htext)
      next hset hget =>
          have hmethod : method.kind = .method := by
            cases hk : method.kind <;> simp_all
          refine whenQuiet_lift_bind fun result _ => whenQuiet_lift_bind fun typeParams _ => ?_
          exact losesNothing_pure (.method hmethod hname hparams)

theorem losesNothing_classMember (member : ClassMember) :
    (options.classMember member).LosesNothing member.DeclaredAs := by
  cases member with
  | method method => exact options.losesNothing_classMethod method
  | property property =>
      refine (options.losesNothing_memberName property.key property.computed).bind
        fun name hname => whenQuiet_lift_bind fun text htext => ?_
      exact losesNothing_pure (.property hname htext)
  | unsupported kind => exact whenQuiet_leaveOut (by simp [Event.severity])

theorem losesNothing_interfaceMember (member : ObjectMember) :
    (options.interfaceMember member).LosesNothing member.DeclaredAs := by
  cases member with
  | unsupported kind => exact whenQuiet_leaveOut (by simp [Event.severity])
  | property property =>
      refine (options.losesNothing_memberName property.key false).bind fun name hname => ?_
      dsimp only
      split
      next type hvalue =>
          refine whenQuiet_lift_bind fun signature hsignature => ?_
          obtain ⟨hsigned, _, hparams⟩ := FunctionType.becomes_of_signature hsignature
          exact losesNothing_pure (.method hvalue hname hsigned hparams)
      next => exact whenQuiet_lift_bind fun text htext => losesNothing_pure (.property hname htext)

theorem losesNothing_exportList (root : String) (origin : Origin)
    (specifiers : List ExportSpecifier) (source : Option StringLiteral) :
    (options.exportList root origin specifiers source).LosesNothing
      (Statement.exportNamed origin none specifiers source).DeclaredWhole := by
  refine (whenQuiet_keep options.losesNothing_exportSpecifier specifiers).bind
    fun kept hkept => ?_
  dsimp only
  split
  · exact whenQuiet_leaveOut (by simp [Event.severity])
  · exact losesNothing_pure (.exportList hkept)

theorem losesNothing_variableList (d : VariableDeclaration) :
    (options.variableList d).LosesNothing (Statement.variables d).DeclaredWhole := by
  refine (whenQuiet_keep options.losesNothing_declarator d.declarators).bind fun kept hkept => ?_
  split
  · exact whenQuiet_leaveOut (by simp [Event.severity])
  · exact losesNothing_pure (.variables hkept)

theorem losesNothing_function (d : FunctionDeclaration) :
    (options.function d).LosesNothing (Statement.function d).DeclaredWhole := by
  unfold Options.function
  split
  next => exact whenQuiet_leaveOut (by simp [Event.severity])
  next id hid =>
      refine whenQuiet_unless_excluded ?_
      refine (Pattern.losesNothing_params d.params).bind fun params hparams => ?_
      refine whenQuiet_lift_bind fun result _ => whenQuiet_lift_bind fun typeParams _ => ?_
      exact losesNothing_pure (.function hid hparams)

theorem declaredAs_of_implemented {l : List Implemented} {interfaces : List Declaration}
    (h : Written.each Implemented.declaration l = .ok interfaces) :
    List.Forall₂ Implemented.DeclaredAs l interfaces := by
  refine (Written.each_eq_ok_iff.mp h).imp fun implemented declared hdeclared => ?_
  obtain ⟨arguments, harguments, rfl⟩ := declared_of_implemented hdeclared
  exact .name harguments

theorem losesNothing_classBody (d : ClassDeclaration) {id : Identifier} (hid : d.id = some id)
    (superName : Option String) :
    (options.classBody d id.name superName).LosesNothing (Statement.classes d).DeclaredWhole := by
  refine (whenQuiet_keep options.losesNothing_classMember d.members).bind
    fun members hmembers => ?_
  split
  · exact whenQuiet_leaveOut (by simp [Event.severity])
  · refine whenQuiet_lift_bind fun interfaces hinterfaces => whenQuiet_lift_bind fun _ _ =>
      whenQuiet_lift_bind fun _ _ => ?_
    exact losesNothing_pure (.classes hid hmembers (declaredAs_of_implemented hinterfaces))

theorem losesNothing_classes (d : ClassDeclaration) :
    (options.classes d).LosesNothing (Statement.classes d).DeclaredWhole := by
  unfold Options.classes
  split
  next => exact whenQuiet_leaveOut (by simp [Event.severity])
  next id hid =>
      refine whenQuiet_unless_excluded ?_
      split
      · exact whenQuiet_leaveOut (by simp [Event.severity])
      · exact options.losesNothing_classBody d hid _
      · exact options.losesNothing_classBody d hid none

theorem losesNothing_interface (d : InterfaceDeclaration) :
    (options.interface d).LosesNothing (Statement.interface d).DeclaredWhole := by
  refine whenQuiet_unless_excluded (whenQuiet_lift_bind fun bases _ => ?_)
  refine (whenQuiet_keep options.losesNothing_interfaceMember d.body.properties).bind
    fun properties hproperties => ?_
  refine whenQuiet_lift_bind fun indexers hindexers => whenQuiet_lift_bind fun calls hcalls => ?_
  have hindexers : List.Forall₂ Indexer.DeclaredAs d.body.indexers indexers := by
    refine (Written.each_eq_ok_iff.mp hindexers).imp fun indexer declared hdeclared => ?_
    obtain ⟨_, _, hkey, hvalue, rfl⟩ := declared_of_indexer hdeclared
    exact .index hkey hvalue
  have hcalls : List.Forall₂ CallProperty.DeclaredAs d.body.calls calls := by
    refine (Written.each_eq_ok_iff.mp hcalls).imp fun call declared hdeclared => ?_
    obtain ⟨signature, hsignature, rfl⟩ := declared_of_callProperty hdeclared
    obtain ⟨hunnamed, _, hparams⟩ := FunctionType.becomes_of_signature hsignature
    exact .call hunnamed hparams
  dsimp only
  split
  · exact whenQuiet_leaveOut (by simp [Event.severity])
  · refine whenQuiet_lift_bind fun typeParams _ => ?_
    exact losesNothing_pure (.interface hproperties hindexers hcalls)

-- The induction goes through the exports around a declaration.
theorem losesNothing_declaration (root : String) : ∀ statement : Statement,
    (options.declaration root statement).LosesNothing statement.DeclaredWhole
  | .imports d => (d.whenQuiet_declaration root).bind fun _ h => losesNothing_pure h
  | .exportAll _ => losesNothing_pure .exportAll
  | .exportNamed origin (some inner) specifiers source =>
      (losesNothing_declaration root inner).bind fun _ h => losesNothing_pure (.exported h)
  | .exportNamed origin none specifiers source =>
      options.losesNothing_exportList root origin specifiers source
  | .variables d => options.losesNothing_variableList d
  | .function d => options.losesNothing_function d
  | .classes d => options.losesNothing_classes d
  | .interface d => options.losesNothing_interface d
  | .exportDefault _ _ => whenQuiet_leaveOut (by simp [Event.severity])
  | .unsupported _ _ => whenQuiet_leaveOut (by simp [Event.severity])

/-- A statement that has an outcome and notes nothing is declared, and its declaration is
complete. -/
theorem declaration_complete (options : Options) (root : String) (statement : Statement)
    (outcome : Option Declaration)
    (h : (options.declaration root statement).result = .ok outcome)
    (hquiet : ∀ event ∈ (options.declaration root statement).events,
      event.severity ≠ .debug ∧ event.severity ≠ .warn) :
    ∃ declared, outcome = some declared ∧ statement.DeclaredWhole declared :=
  options.losesNothing_declaration root statement outcome h hquiet

/-- Options under which no name is excluded. -/
def keepingAll : Options := { filter := .keepAll }

def sampleMethod (kind : MethodKind) (name : String) (params : List Pattern) : ClassMethod :=
  ⟨{}, .identifier ⟨{}, name, none, false⟩, kind, false, false, params, none, [], []⟩

def sampleClass (method : ClassMethod) : Statement :=
  .classes ⟨{}, some ⟨{}, "C", none, false⟩, none, [], [], [], [.method method], []⟩

/-- `{ b: { c } = … }`, an object inside an object. -/
def sampleNestedPattern : Pattern :=
  .object ⟨{}, [.property {} (.identifier ⟨{}, "b", none, false⟩)
    (.assignment {} (.object ⟨{}, [.property {} (.identifier ⟨{}, "c", none, false⟩)
      (.identifier ⟨{}, "c", none, false⟩) false], none⟩)) false], none⟩

def sampleNestedParam : Param :=
  .object ⟨[⟨"b", some ⟨[⟨"c", none, false⟩], none, false⟩, true⟩], none, false⟩

/-- An exported class whose constructor destructures its parameter. -/
theorem declaration_complete_exported_class :
    let statement := Statement.exportNamed {}
      (some (sampleClass (sampleMethod .constructor "constructor" [sampleNestedPattern]))) [] none
    let declared : Declaration := ⟨[], .exported ⟨[], .classes "C" none
      [⟨[], .classConstructor [sampleNestedParam]⟩] [] [] []⟩⟩
    (keepingAll.declaration "pkg" statement).result = .ok (some declared) ∧
      (∀ event ∈ (keepingAll.declaration "pkg" statement).events,
        event.severity ≠ .debug ∧ event.severity ≠ .warn) ∧
      ∃ whole, some declared = some whole ∧ statement.DeclaredWhole whole :=
  ⟨rfl, nofun, declaration_complete keepingAll "pkg" _ _ rfl nofun⟩

/-- A getter is declared as a property without a word, so a parameter of it is in no
parameter list of the declaration. -/
theorem getter_param_leaves_no_trace :
    let getter := sampleMethod .get "a" [.identifier ⟨{}, "x", none, false⟩]
    let declared : Declaration :=
      ⟨[], .classes "C" none [⟨[], .classProperty "a" "any" false⟩] [] [] []⟩
    keepingAll.declaration "pkg" (sampleClass getter) = ⟨[], .ok (some declared)⟩ ∧
      ¬ ∃ part ∈ declared.form.parts,
        List.Forall₂ Pattern.Becomes getter.params part.form.params := by
  refine ⟨rfl, ?_⟩
  rintro ⟨part, hpart, hparams⟩
  rw [List.mem_singleton.mp hpart] at hparams
  cases hparams

end Options

end Ambient
