import Ambient.Proofs.Declaration.Comments
import Ambient.Proofs.Emission.Document
import Ambient.Proofs.Syntax.Comments

namespace Ambient

/-!
# Documents without comments

A statement without comments is declared as the statement is, without the comments. So a document
in which comments are left out is the document of the program without comments.
-/

namespace Traced

variable {α β γ : Type}

theorem lift_map (g : α → β) (x : Written α) :
    (liftM (g <$> x) : Traced β) = g <$> (liftM x : Traced α) := by
  cases x <;> rfl

theorem map_unless {g : α → β} {found : Traced Bool} {next : Traced (Option α)}
    {changed : Traced (Option β)} (h : changed = Option.map g <$> next) :
    (found >>= fun found => if found = true then pure none else changed) =
      Option.map g <$> (found >>= fun found => if found = true then pure none else next) := by
  rw [map_bind]
  refine bind_congr fun found => ?_
  cases found with
  | true => rfl
  | false => simpa using h

/-- Where it goes on with what is found, if anything is. -/
theorem map_found {g : α → β} {found : Traced (Option γ)} {next : Option γ → Traced (Option α)}
    {changed : Option γ → Traced (Option β)} (hnone : changed none = Option.map g <$> next none)
    (hsome : ∀ c, changed (some c) = Option.map g <$> next (some c)) :
    (found >>= changed) = Option.map g <$> (found >>= next) := by
  rw [map_bind]
  refine bind_congr fun found => ?_
  cases found with
  | none => exact hnone
  | some c => exact hsome c

/-- What is kept of a list when the parts are changed before or after. -/
theorem keep_map {f : α → Traced (Option β)} {g : α → α} {h : β → β}
    (hfg : ∀ a, f (g a) = Option.map h <$> f a) (l : List α) :
    keep f (l.map g) = List.map h <$> keep f l := by
  induction l with
  | nil => rfl
  | cons a rest ih =>
      have htoList : ∀ b : Option β, (b.map h).toList = b.toList.map h := by
        intro b
        cases b <;> rfl
      simp only [List.map_cons, keep, hfg, ih, map_bind, bind_map_left, map_pure, List.map_append,
        htoList]

end Traced

theorem Written.each_map {α β : Type} {f : α → Written β} {g : α → α} {h : β → β}
    (hfg : ∀ a, f (g a) = h <$> f a) (l : List α) :
    Written.each f (l.map g) = List.map h <$> Written.each f l := by
  induction l with
  | nil => rfl
  | cons a rest ih =>
      simp only [List.map_cons, Written.each, hfg, ih, map_bind, bind_map_left, map_pure]

namespace Options

variable (options : Options) (f : Origin → Origin)

theorem memberName_mapOrigins (key : PropertyKey) (computed : Bool) :
    options.memberName (key.mapOrigins f) computed = options.memberName key computed := by
  cases key <;> simp [PropertyKey.mapOrigins, memberName]

theorem classMethod_bare (method : ClassMethod) :
    options.classMethod (method.bare f) =
      Option.map Declaration.bare <$> options.classMethod method := by
  simp only [classMethod, ClassMethod.bare, Pattern.params_mapOrigins, memberName_mapOrigins,
    Origin.decoratedComments_bare, FlowType.textOrAny_mapOrigins, FlowType.text?_mapOrigins,
    TypeParam.texts_mapAllOrigins]
  refine Traced.map_found rfl fun params => ?_
  by_cases hconstructor : method.kind = .constructor
  · simp only [hconstructor, if_true]
    rfl
  · simp only [hconstructor, if_false]
    refine Traced.map_found rfl fun name => ?_
    cases hkind : method.kind with
    | constructor => exact absurd hkind hconstructor
    | set => rfl
    | get =>
        simp only [map_bind, map_pure]
        rfl
    | method =>
        simp only [map_bind, map_pure]
        rfl

theorem classProperty_bare (property : ClassProperty) :
    options.classProperty (property.bare f) =
      Option.map Declaration.bare <$> options.classProperty property := by
  simp only [classProperty, ClassProperty.bare, memberName_mapOrigins,
    Origin.decoratedComments_bare, FlowType.textOrAny_mapOrigins]
  refine Traced.map_found rfl fun name => ?_
  simp only [map_bind, map_pure]
  rfl

theorem classMember_bare (member : ClassMember) :
    options.classMember (member.bare f) =
      Option.map Declaration.bare <$> options.classMember member := by
  cases member with
  | method member => exact options.classMethod_bare f member
  | property member => exact options.classProperty_bare f member
  | unsupported kind => rfl

theorem interfaceProperty_bare (property : ObjectProperty) :
    options.interfaceProperty (property.bare f) =
      Option.map Declaration.bare <$> options.interfaceProperty property := by
  obtain ⟨origin, key, value, isOptional, isStatic⟩ := property
  simp only [interfaceProperty, ObjectProperty.bare, memberName_mapOrigins]
  refine Traced.map_found rfl fun name => ?_
  have htext := value.text_mapOrigins f
  cases value with
  | function type =>
      simp only [FlowType.mapOrigins, FunctionType.signature_mapOrigins, map_bind, map_pure]
      rfl
  | _ =>
      simp only [FlowType.mapOrigins] at htext
      simp only [FlowType.mapOrigins, htext, map_bind, map_pure]
      rfl

theorem interfaceMember_bare (member : ObjectMember) :
    options.interfaceMember (member.bare f) =
      Option.map Declaration.bare <$> options.interfaceMember member := by
  cases member with
  | property member => exact options.interfaceProperty_bare f member
  | unsupported kind => rfl

end Options

theorem Indexer.declaration_bare (f : Origin → Origin) (indexer : Indexer) :
    (indexer.bare f).declaration = Declaration.bare <$> indexer.declaration := by
  simp only [Indexer.declaration, Indexer.bare, FlowType.text_mapOrigins, indexName_mapOrigins,
    map_bind, map_pure]
  rfl

theorem CallProperty.declaration_bare (f : Origin → Origin) (call : CallProperty) :
    (call.bare f).declaration = Declaration.bare <$> call.declaration := by
  simp only [CallProperty.declaration, CallProperty.bare, FunctionType.signature_mapOrigins,
    map_bind, map_pure]
  rfl

theorem Implemented.declaration_bare (f : Origin → Origin) (implemented : Implemented) :
    (implemented.bare f).declaration = Declaration.bare <$> implemented.declaration := by
  simp only [Implemented.declaration, Implemented.bare, FlowType.texts_mapAllOrigins,
    Identifier.name_mapOrigins, map_bind, map_pure]
  rfl

theorem InterfaceBase.text_bare (f : Origin → Origin) (base : InterfaceBase) :
    (base.bare f).text = base.text := by
  simp only [InterfaceBase.text, InterfaceBase.bare, FlowType.texts_mapAllOrigins,
    TypeRef.text_mapOrigins]

theorem ImportSpecifier.declaration_bare (f : Origin → Origin) (specifier : ImportSpecifier) :
    (specifier.bare f).declaration = Option.map Declaration.bare <$> specifier.declaration := by
  cases specifier with
  | unsupported kind => rfl
  | _ =>
      simp only [ImportSpecifier.bare, ImportSpecifier.declaration, Identifier.name_mapOrigins]
      rfl

theorem ImportDeclaration.declaration_bare (f : Origin → Origin) (root : String)
    (d : ImportDeclaration) :
    (d.bare f).declaration root = Declaration.bare <$> d.declaration root := by
  simp only [ImportDeclaration.declaration, ImportDeclaration.bare, StringLiteral.value_mapOrigins,
    Traced.keep_map (ImportSpecifier.declaration_bare f), map_bind, bind_map_left, map_pure]
  refine bind_congr fun kept => congrArg pure ?_
  have hfilter : ∀ p : Bool → Bool,
      (kept.map Declaration.bare).filter (fun d => p d.form.isNamedSpecifier) =
        (kept.filter fun d => p d.form.isNamedSpecifier).map Declaration.bare := by
    intro p
    simp [List.filter_map, Function.comp_def]
  have hnamed := hfilter id
  have hbare := hfilter not
  simp only [id] at hnamed
  rw [hnamed, hbare, List.isEmpty_map, List.isEmpty_map]
  cases kept.isEmpty <;> simp [Declaration.bare, DeclarationForm.bare]

namespace Options

variable (options : Options) (f : Origin → Origin) (root : String)

theorem exportSpecifier_bare (specifier : ExportSpecifier) :
    options.exportSpecifier (specifier.bare f) =
      Option.map Declaration.bare <$> options.exportSpecifier specifier := by
  cases specifier with
  | unsupported kind => rfl
  | named origin bound exported =>
      simp only [ExportSpecifier.bare, exportSpecifier, Identifier.name_mapOrigins]
      exact Traced.map_unless (Traced.map_unless rfl)

theorem exportList_bare (origin : Origin) (specifiers : List ExportSpecifier)
    (source : Option StringLiteral) :
    options.exportList root origin.bare (specifiers.map (ExportSpecifier.bare f))
        (source.map (StringLiteral.mapOrigins f)) =
      Option.map Declaration.bare <$> options.exportList root origin specifiers source := by
  simp only [exportList, Traced.keep_map (options.exportSpecifier_bare f), map_bind, bind_map_left,
    List.isEmpty_map]
  refine bind_congr fun kept => ?_
  cases kept.isEmpty with
  | true => rfl
  | false =>
      simp [Declaration.bare, DeclarationForm.bare, Function.comp_def]

theorem declarator_bare (d : Declarator) :
    options.declarator (d.bare f) = Option.map Declaration.bare <$> options.declarator d := by
  obtain ⟨origin, pattern⟩ := d
  cases pattern with
  | identifier id =>
      simp only [declarator, Declarator.bare, Pattern.mapOrigins, Identifier.name_mapOrigins,
        Identifier.type_mapOrigins, FlowType.textOrAny_mapOrigins]
      refine Traced.map_unless ?_
      simp only [map_bind, map_pure]
      rfl
  | _ => rfl

theorem variableList_bare (d : VariableDeclaration) :
    options.variableList (d.bare f) = Option.map Declaration.bare <$> options.variableList d := by
  simp only [variableList, VariableDeclaration.bare, Traced.keep_map (options.declarator_bare f),
    map_bind, bind_map_left, List.isEmpty_map]
  refine bind_congr fun kept => ?_
  cases kept.isEmpty with
  | true => rfl
  | false => simp [Declaration.bare, DeclarationForm.bare]

theorem function_bare (d : FunctionDeclaration) :
    options.function (d.bare f) = Option.map Declaration.bare <$> options.function d := by
  obtain ⟨origin, id, params, result, typeParams, decorators⟩ := d
  cases id with
  | none => rfl
  | some id =>
      simp only [function, FunctionDeclaration.bare, Identifier.mapOrigins?,
        Identifier.name_mapOrigins, Pattern.params_mapOrigins, FlowType.text?_mapOrigins,
        TypeParam.texts_mapAllOrigins, Origin.decoratedComments_bare]
      refine Traced.map_unless (Traced.map_found rfl fun params => ?_)
      simp only [map_bind, map_pure]
      rfl

theorem classBody_bare (d : ClassDeclaration) (name : String) (superName : Option String) :
    options.classBody (d.bare f) name superName =
      Option.map Declaration.bare <$> options.classBody d name superName := by
  simp only [classBody, ClassDeclaration.bare, Traced.keep_map (options.classMember_bare f),
    Written.each_map (Implemented.declaration_bare f), TypeParam.texts_mapAllOrigins,
    FlowType.texts_mapAllOrigins, Origin.decoratedComments_bare, map_bind, bind_map_left,
    List.isEmpty_map]
  refine bind_congr fun members => ?_
  cases members.isEmpty && options.ignoreEmptyClasses with
  | true => rfl
  | false =>
      simp only [Bool.false_eq_true, if_false, Traced.lift_map, bind_map_left, map_bind, map_pure]
      refine bind_congr fun implemented => ?_
      simp [Declaration.bare, DeclarationForm.bare]

theorem classes_bare (d : ClassDeclaration) :
    options.classes (d.bare f) = Option.map Declaration.bare <$> options.classes d := by
  have hbody := options.classBody_bare f d
  obtain ⟨origin, id, superclass, superArguments, typeParams, implemented, members, decorators⟩ := d
  cases id with
  | none => rfl
  | some id =>
      simp only [classes, ClassDeclaration.bare, Identifier.mapOrigins?,
        Identifier.name_mapOrigins] at hbody ⊢
      refine Traced.map_unless ?_
      cases superclass with
      | none => exact hbody id.name none
      | some superclass =>
          cases superclass with
          | identifier base =>
              simp only [Option.map_some, Superclass.mapOrigins, Identifier.name_mapOrigins]
                at hbody ⊢
              exact hbody id.name (some base.name)
          | unsupported kind => rfl

theorem interface_bare (d : InterfaceDeclaration) :
    options.interface (d.bare f) = Option.map Declaration.bare <$> options.interface d := by
  have hbases : Written.each InterfaceBase.text (d.bases.map (InterfaceBase.bare f)) =
      Written.each InterfaceBase.text d.bases := by
    rw [Written.each_map (h := id) fun base => by rw [base.text_bare f, id_map], List.map_id_fun,
      id_map]
  simp only [interface, InterfaceDeclaration.bare, ObjectType.bare, Identifier.name_mapOrigins,
    hbases, Traced.keep_map (options.interfaceMember_bare f), TypeParam.texts_mapAllOrigins,
    Written.each_map (Indexer.declaration_bare f),
    Written.each_map (CallProperty.declaration_bare f)]
  refine Traced.map_unless ?_
  simp only [Traced.lift_map, bind_map_left, map_bind, ← List.map_append, List.isEmpty_map]
  refine bind_congr fun bases => bind_congr fun properties => bind_congr fun indexers =>
    bind_congr fun calls => ?_
  cases options.ignoreEmptyInterfaces && bases.isEmpty &&
    (properties ++ indexers ++ calls).isEmpty with
  | true => rfl
  | false =>
      simp only [Bool.false_eq_true, if_false, map_bind, map_pure, Option.map_some,
        Declaration.bare, DeclarationForm.bare, Declaration.allBare_eq_map]
      rfl

theorem declaration_bare : ∀ statement : Statement,
    options.declaration root (statement.bare f) =
      Option.map Declaration.bare <$> options.declaration root statement
  | .imports d => by
    simp only [Statement.bare, declaration, d.declaration_bare f, bind_map_left, map_bind, map_pure]
    rfl
  | .exportAll d => rfl
  | .exportNamed origin (some inner) specifiers source => by
    simp only [Statement.bare, declaration, declaration_bare inner, bind_map_left, map_bind,
      map_pure]
    refine bind_congr fun outcome => congrArg pure ?_
    cases outcome <;> rfl
  | .exportNamed origin none specifiers source => by
    simp only [Statement.bare, declaration]
    exact options.exportList_bare f root origin specifiers source
  | .exportDefault _ (some _) => rfl
  | .exportDefault _ none => rfl
  | .variables d => options.variableList_bare f d
  | .function d => options.function_bare f d
  | .classes d => options.classes_bare f d
  | .interface d => options.interface_bare f d
  | .unsupported _ _ => rfl

theorem declarations_bare (statements : List Statement) :
    options.declarations root (statements.map (Statement.bare f)) =
      List.map Declaration.bare <$> options.declarations root statements :=
  Traced.keep_map (options.declaration_bare f root) statements

theorem declarations_suppressComments (suppressed : Bool) (statements : List Statement) :
    ({ options with suppressComments := suppressed } : Options).declarations root statements =
      options.declarations root statements := by
  have hdeclaration :
      ({ options with suppressComments := suppressed } : Options).declaration root =
        options.declaration root :=
    funext fun s => options.declaration_layout root _ suppressed _ _ s
  rw [declarations, hdeclaration, declarations]

theorem document_suppressComments (name : String) (children : List Declaration) :
    (Declaration.mk [] (.module name children)).document
        ({ options with suppressComments := true } : Options).layout =
      (Declaration.mk [] (.module name (children.map Declaration.bare))).document
        ({ options with suppressComments := false } : Options).layout := by
  -- The module itself carries no comments, so it changes only in its children.
  have hbare := Declaration.text_bare ({ options with suppressComments := false } : Options).layout
    ⟨[], .module name children⟩
  simp only [Declaration.bare, DeclarationForm.bare, Declaration.allBare_eq_map] at hbare
  rw [Declaration.document, Declaration.document, hbare]
  rfl

theorem generate_collected_bare (moduleId : String) (collected : Collected) :
    ({ options with suppressComments := true } : Options).generate root moduleId collected =
      ({ options with suppressComments := false } : Options).generate root moduleId
        (collected.bare f) := by
  simp only [generate, module, Collected.statements_bare, declarations_bare,
    declarations_suppressComments, bind_map_left, bind_assoc, pure_bind]
  refine bind_congr fun _ => bind_congr fun children => congrArg pure ?_
  exact options.document_suppressComments _ children

/-- Leaving comments out is the same as having none: the document of a program, or the error, is
the one of the program from which the comments of all statements and their parts have been
removed, whatever else `f` does to the names, patterns and types inside. So programs that differ
only in comments have the same document. -/
theorem generate_suppressComments (options : Options) (root moduleId : String) (p : Program) :
    let quiet : Options := { options with suppressComments := true }
    let loud : Options := { options with suppressComments := false }
    (∀ f : Origin → Origin,
      quiet.generate root moduleId p.collect = loud.generate root moduleId (p.bare f).collect) ∧
    ∀ q : Program, p.bare Origin.bare = q.bare Origin.bare →
      quiet.generate root moduleId p.collect = quiet.generate root moduleId q.collect := by
  intro quiet loud
  have hbare : ∀ (r : Program) (f : Origin → Origin),
      quiet.generate root moduleId r.collect = loud.generate root moduleId (r.bare f).collect := by
    intro r f
    rw [r.collect_bare f]
    exact options.generate_collected_bare f root moduleId r.collect
  refine ⟨hbare p, fun q hq => ?_⟩
  rw [hbare p Origin.bare, hbare q Origin.bare, hq]

/-- A class with a decorated method, the comments in front of the class and of the decorator. -/
def decoratedClass (above decorator : List Comment) : Program :=
  ⟨[.classes {
    origin := { comments := above }
    id := some ⟨{ comments := above }, "C", none, false⟩
    superclass := none
    superArguments := []
    typeParams := []
    implemented := []
    members := [.method {
      origin := {}
      key := .identifier ⟨{}, "m", none, false⟩
      kind := .method
      computed := false
      isStatic := false
      params := []
      result := some .number
      typeParams := []
      decorators := [{ comments := decorator }] }]
    decorators := [] }]⟩

theorem generate_suppressComments_decorated :
    let p := decoratedClass [⟨.line, " one"⟩] [⟨.block, " two "⟩]
    let q := decoratedClass [] [⟨.line, " three"⟩]
    p.bare Origin.bare = q.bare Origin.bare ∧
      ({ suppressComments := true } : Options).generate "pkg" "pkg/a" p.collect =
        ({ suppressComments := true } : Options).generate "pkg" "pkg/a" q.collect :=
  ⟨rfl, (generate_suppressComments {} "pkg" "pkg/a" _).2 _ rfl⟩

end Options

end Ambient
