import Ambient.Proofs.Emission.Omission

namespace Ambient

/-!
# What is declared

For every part of a module the declarations it can have: which parts of the
source they are made of, when there is one at all. Whatever holds of all
declarations is proved from these lemmas, without looking at how they are made.
-/

/-- The name of a member as it is written. -/
def PropertyKey.declaredName (computed : Bool) : PropertyKey → Option String
  | .identifier id => some (if computed then "[" ++ id.name ++ "]" else id.name)
  | .string literal => some literal.text
  | .unsupported _ => none

namespace Options

variable {options : Options} {root : String}

theorem kept_of_isExcluded {α : Type} {name : String} {next : Traced (Option α)} {a : α}
    (h : (options.isExcluded name >>= fun excluded =>
      if excluded = true then pure none else next).result = .ok (some a)) :
    options.filter.excludes name = false ∧ next.result = .ok (some a) := by
  rw [Traced.bind_result, isExcluded_result, Written.ok_bind] at h
  cases hname : options.filter.excludes name with
  | true =>
      rw [hname, if_pos rfl] at h
      cases h
  | false =>
      rw [hname, if_neg (by simp)] at h
      exact ⟨rfl, h⟩

theorem declaredName_of_memberName {key : PropertyKey} {computed : Bool} {name : String}
    (h : (options.memberName key computed).result = .ok (some name)) :
    key.declaredName computed = some name := by
  cases key with
  | identifier id => exact Except.ok.inj (kept_of_isExcluded h).2
  | string literal => exact Except.ok.inj (kept_of_isExcluded h).2
  | unsupported kind => cases h

theorem declared_of_exportSpecifier {specifier : ExportSpecifier} {declared : Declaration}
    (h : (options.exportSpecifier specifier).result = .ok (some declared)) :
    ∃ origin bound exported, specifier = .named origin bound exported ∧
      declared = ⟨origin.comments, .exportSpecifier exported.name (some bound.name)⟩ := by
  cases specifier with
  | unsupported kind => cases h
  | named origin bound exported =>
      have hbound := (kept_of_isExcluded h).2
      have hdeclared := (kept_of_isExcluded hbound).2
      cases hdeclared
      exact ⟨origin, bound, exported, rfl, rfl⟩

theorem declared_of_exportList {origin : Origin} {specifiers : List ExportSpecifier}
    {source : Option StringLiteral} {declared : Declaration}
    (h : (options.exportList root origin specifiers source).result = .ok (some declared)) :
    ∃ kept, (Traced.keep options.exportSpecifier specifiers).result = .ok kept ∧ kept ≠ [] ∧
      declared = ⟨origin.comments, .exportList kept
        (source.map fun literal => resolveSource root literal.value)⟩ := by
  simp only [Options.exportList, Traced.bind_result] at h
  obtain ⟨kept, hkept, h⟩ := Written.bind_eq_ok_iff.mp h
  split at h
  · cases h
  next hempty =>
      cases h
      exact ⟨kept, hkept, by simpa using hempty, rfl⟩

theorem declared_of_declarator {d : Declarator} {declared : Declaration}
    (h : (options.declarator d).result = .ok (some declared)) :
    ∃ id type, d.id = .identifier id ∧ FlowType.textOrAny id.type = .ok type ∧
      declared = ⟨d.origin.comments, .declarator id.name type⟩ := by
  unfold Options.declarator at h
  split at h
  next id hid =>
      have h := (kept_of_isExcluded h).2
      obtain ⟨type, htype, h⟩ := Written.bind_eq_ok_iff.mp (Traced.bind_result _ _ ▸ h)
      cases h
      exact ⟨id, type, hid, htype, rfl⟩
  · cases h

theorem declared_of_variableList {d : VariableDeclaration} {declared : Declaration}
    (h : (options.variableList d).result = .ok (some declared)) :
    ∃ kept, (Traced.keep options.declarator d.declarators).result = .ok kept ∧ kept ≠ [] ∧
      declared = ⟨d.origin.comments, .variables d.keyword kept⟩ := by
  simp only [Options.variableList, Traced.bind_result] at h
  obtain ⟨kept, hkept, h⟩ := Written.bind_eq_ok_iff.mp h
  split at h
  · cases h
  next hempty =>
      cases h
      exact ⟨kept, hkept, by simpa using hempty, rfl⟩

theorem declared_of_function {d : FunctionDeclaration} {declared : Declaration}
    (h : (options.function d).result = .ok (some declared)) :
    ∃ id params result typeParams, d.id = some id ∧
      (Pattern.params d.params).result = .ok (some params) ∧
      FlowType.text? d.result = .ok result ∧ TypeParam.texts d.typeParams = .ok typeParams ∧
      declared = ⟨d.origin.decoratedComments d.decorators,
        .function ⟨some id.name, params, result, typeParams⟩⟩ := by
  cases hid : d.id with
  | none =>
      simp only [Options.function, hid] at h
      cases h
  | some id =>
      simp only [Options.function, hid] at h
      have h := (kept_of_isExcluded h).2
      simp only [Traced.bind_result] at h
      obtain ⟨params, hparams, h⟩ := Written.bind_eq_ok_iff.mp h
      cases params with
      | none => cases h
      | some params =>
          simp only [Traced.bind_result] at h
          obtain ⟨result, hresult, h⟩ := Written.bind_eq_ok_iff.mp h
          obtain ⟨typeParams, htypeParams, h⟩ := Written.bind_eq_ok_iff.mp h
          cases h
          exact ⟨id, params, result, typeParams, rfl, hparams, hresult, htypeParams, rfl⟩

/-- A method of a class is declared as a constructor, as the property of a getter,
or as a method. -/
theorem declared_of_classMethod {method : ClassMethod} {declared : Declaration}
    (h : (options.classMethod method).result = .ok (some declared)) :
    declared.comments = method.origin.decoratedComments method.decorators ∧
    ∃ params, (Pattern.params method.params).result = .ok (some params) ∧
      ((method.kind = .constructor ∧ declared.form = .classConstructor params) ∨
      ∃ name, method.key.declaredName method.computed = some name ∧
        ((method.kind = .get ∧ ∃ type, FlowType.textOrAny method.result = .ok type ∧
          declared.form = .classProperty name type method.isStatic) ∨
        (method.kind = .method ∧ ∃ result typeParams, FlowType.text? method.result = .ok result ∧
          TypeParam.texts method.typeParams = .ok typeParams ∧
          declared.form = .classMethod ⟨some name, params, result, typeParams⟩
            method.isStatic))) := by
  simp only [Options.classMethod, Traced.bind_result] at h
  obtain ⟨params, hparams, h⟩ := Written.bind_eq_ok_iff.mp h
  cases params with
  | none => cases h
  | some params =>
      dsimp only at h
      split at h
      next hkind =>
          cases h
          exact ⟨rfl, params, hparams, .inl ⟨hkind, rfl⟩⟩
      next hkind =>
          simp only [Traced.bind_result] at h
          obtain ⟨name, hname, h⟩ := Written.bind_eq_ok_iff.mp h
          cases name with
          | none => cases h
          | some name =>
              have hdeclared := declaredName_of_memberName hname
              dsimp only at h
              split at h
              next => cases h
              next hget =>
                  simp only [Traced.bind_result] at h
                  obtain ⟨type, htype, h⟩ := Written.bind_eq_ok_iff.mp h
                  cases h
                  exact ⟨rfl, params, hparams, .inr ⟨name, hdeclared,
                    .inl ⟨hget, type, htype, rfl⟩⟩⟩
              next hset hget =>
                  simp only [Traced.bind_result] at h
                  obtain ⟨result, hresult, h⟩ := Written.bind_eq_ok_iff.mp h
                  obtain ⟨typeParams, htypeParams, h⟩ := Written.bind_eq_ok_iff.mp h
                  cases h
                  have hmethod : method.kind = .method := by
                    cases hk : method.kind <;> simp_all
                  exact ⟨rfl, params, hparams, .inr ⟨name, hdeclared,
                    .inr ⟨hmethod, result, typeParams, hresult, htypeParams, rfl⟩⟩⟩

theorem declared_of_classProperty {property : ClassProperty} {declared : Declaration}
    (h : (options.classProperty property).result = .ok (some declared)) :
    ∃ name type, property.key.declaredName property.computed = some name ∧
      FlowType.textOrAny property.type = .ok type ∧
      declared = ⟨property.origin.decoratedComments property.decorators,
        .classProperty name type property.isStatic⟩ := by
  simp only [Options.classProperty, Traced.bind_result] at h
  obtain ⟨name, hname, h⟩ := Written.bind_eq_ok_iff.mp h
  cases name with
  | none => cases h
  | some name =>
      simp only [Traced.bind_result] at h
      obtain ⟨type, htype, h⟩ := Written.bind_eq_ok_iff.mp h
      cases h
      exact ⟨name, type, declaredName_of_memberName hname, htype, rfl⟩

theorem declared_of_classMember {member : ClassMember} {declared : Declaration}
    (h : (options.classMember member).result = .ok (some declared)) :
    (∃ method, member = .method method ∧
      (options.classMethod method).result = .ok (some declared)) ∨
    ∃ property, member = .property property ∧
      (options.classProperty property).result = .ok (some declared) := by
  cases member with
  | method method => exact .inl ⟨method, rfl, h⟩
  | property property => exact .inr ⟨property, rfl, h⟩
  | unsupported kind => cases h

theorem declared_of_implemented {implemented : Implemented} {declared : Declaration}
    (h : implemented.declaration = .ok declared) :
    ∃ arguments, FlowType.texts implemented.arguments = .ok arguments ∧
      declared = ⟨implemented.origin.comments, .implemented implemented.id.name arguments⟩ := by
  obtain ⟨arguments, harguments, h⟩ := Written.bind_eq_ok_iff.mp h
  cases h
  exact ⟨arguments, harguments, rfl⟩

theorem declared_of_classes {d : ClassDeclaration} {declared : Declaration}
    (h : (options.classes d).result = .ok (some declared)) :
    ∃ id members implemented typeParams superArguments, d.id = some id ∧
      (Traced.keep options.classMember d.members).result = .ok members ∧
      Written.each Implemented.declaration d.implemented = .ok implemented ∧
      TypeParam.texts d.typeParams = .ok typeParams ∧
      FlowType.texts d.superArguments = .ok superArguments ∧
      (members = [] → options.ignoreEmptyClasses = false) ∧
      ∃ superName : Option Identifier, d.superclass = superName.map .identifier ∧
        declared = ⟨d.origin.decoratedComments d.decorators,
          .classes id.name (superName.map (·.name)) members typeParams superArguments
            implemented⟩ := by
  have hbody : ∀ name superName,
      (options.classBody d name superName).result = .ok (some declared) →
      ∃ members implemented typeParams superArguments,
        (Traced.keep options.classMember d.members).result = .ok members ∧
        Written.each Implemented.declaration d.implemented = .ok implemented ∧
        TypeParam.texts d.typeParams = .ok typeParams ∧
        FlowType.texts d.superArguments = .ok superArguments ∧
        (members = [] → options.ignoreEmptyClasses = false) ∧
        declared = ⟨d.origin.decoratedComments d.decorators,
          .classes name superName members typeParams superArguments implemented⟩ := by
    intro name superName h
    simp only [classBody, Traced.bind_result] at h
    obtain ⟨members, hmembers, h⟩ := Written.bind_eq_ok_iff.mp h
    split at h
    · cases h
    next hempty =>
        simp only [Traced.bind_result] at h
        obtain ⟨implemented, himplemented, h⟩ := Written.bind_eq_ok_iff.mp h
        obtain ⟨typeParams, htypeParams, h⟩ := Written.bind_eq_ok_iff.mp h
        obtain ⟨superArguments, hsuper, h⟩ := Written.bind_eq_ok_iff.mp h
        cases h
        refine ⟨members, implemented, typeParams, superArguments, hmembers, himplemented,
          htypeParams, hsuper, fun hnil => ?_, rfl⟩
        simpa [hnil] using hempty
  cases hid : d.id with
  | none =>
      simp only [Options.classes, hid] at h
      cases h
  | some id =>
      simp only [Options.classes, hid] at h
      have h := (kept_of_isExcluded h).2
      split at h
      · cases h
      next base hsuper =>
          obtain ⟨members, implemented, typeParams, superArguments, hm, hi, ht, hs, hempty, rfl⟩ :=
            hbody id.name (some base.name) h
          exact ⟨id, members, implemented, typeParams, superArguments, rfl, hm, hi, ht, hs, hempty,
            some base, hsuper, rfl⟩
      next hsuper =>
          obtain ⟨members, implemented, typeParams, superArguments, hm, hi, ht, hs, hempty, rfl⟩ :=
            hbody id.name none h
          exact ⟨id, members, implemented, typeParams, superArguments, rfl, hm, hi, ht, hs, hempty,
            none, hsuper, rfl⟩

/-- A property of an interface is declared as a method if its type is a function
type. -/
theorem declared_of_interfaceProperty {property : ObjectProperty} {declared : Declaration}
    (h : (options.interfaceProperty property).result = .ok (some declared)) :
    declared.comments = property.origin.comments ∧
    ∃ name, property.key.declaredName false = some name ∧
      ((∃ type signature, property.value = .function type ∧
        type.signature (some name) = .ok signature ∧
        declared.form = .interfaceMethod signature property.isStatic property.optional) ∨
      ∃ type, property.value.text = .ok type ∧
        declared.form = .interfaceProperty name type property.isStatic property.optional) := by
  simp only [Options.interfaceProperty, Traced.bind_result] at h
  obtain ⟨name, hname, h⟩ := Written.bind_eq_ok_iff.mp h
  cases name with
  | none => cases h
  | some name =>
      have hdeclared := declaredName_of_memberName hname
      dsimp only at h
      split at h
      next type hvalue =>
          simp only [Traced.bind_result] at h
          obtain ⟨signature, hsignature, h⟩ := Written.bind_eq_ok_iff.mp h
          cases h
          exact ⟨rfl, name, hdeclared, .inl ⟨type, signature, hvalue, hsignature, rfl⟩⟩
      next =>
          simp only [Traced.bind_result] at h
          obtain ⟨type, htype, h⟩ := Written.bind_eq_ok_iff.mp h
          cases h
          exact ⟨rfl, name, hdeclared, .inr ⟨type, htype, rfl⟩⟩

theorem declared_of_interfaceMember {member : ObjectMember} {declared : Declaration}
    (h : (options.interfaceMember member).result = .ok (some declared)) :
    ∃ property, member = .property property ∧
      (options.interfaceProperty property).result = .ok (some declared) := by
  cases member with
  | property property => exact ⟨property, rfl, h⟩
  | unsupported kind => cases h

theorem declared_of_indexer {indexer : Indexer} {declared : Declaration}
    (h : indexer.declaration = .ok declared) :
    ∃ keyType valueType, indexer.key.text = .ok keyType ∧ indexer.value.text = .ok valueType ∧
      declared = ⟨indexer.origin.comments,
        .interfaceIndexer (indexName indexer.id) keyType valueType indexer.isStatic⟩ := by
  obtain ⟨keyType, hkey, h⟩ := Written.bind_eq_ok_iff.mp h
  obtain ⟨valueType, hvalue, h⟩ := Written.bind_eq_ok_iff.mp h
  cases h
  exact ⟨keyType, valueType, hkey, hvalue, rfl⟩

theorem declared_of_callProperty {call : CallProperty} {declared : Declaration}
    (h : call.declaration = .ok declared) :
    ∃ signature, call.value.signature none = .ok signature ∧
      declared = ⟨call.origin.comments, .interfaceCall signature⟩ := by
  obtain ⟨signature, hsignature, h⟩ := Written.bind_eq_ok_iff.mp h
  cases h
  exact ⟨signature, hsignature, rfl⟩

theorem declared_of_interface {d : InterfaceDeclaration} {declared : Declaration}
    (h : (options.interface d).result = .ok (some declared)) :
    ∃ bases properties indexers calls typeParams,
      Written.each InterfaceBase.text d.bases = .ok bases ∧
      (Traced.keep options.interfaceMember d.body.properties).result = .ok properties ∧
      Written.each Indexer.declaration d.body.indexers = .ok indexers ∧
      Written.each CallProperty.declaration d.body.calls = .ok calls ∧
      TypeParam.texts d.typeParams = .ok typeParams ∧
      (bases = [] → properties ++ indexers ++ calls = [] →
        options.ignoreEmptyInterfaces = false) ∧
      declared = ⟨d.origin.comments,
        .interface d.id.name (properties ++ indexers ++ calls) bases typeParams⟩ := by
  have h := (kept_of_isExcluded h).2
  simp only [Traced.bind_result] at h
  obtain ⟨bases, hbases, h⟩ := Written.bind_eq_ok_iff.mp h
  obtain ⟨properties, hproperties, h⟩ := Written.bind_eq_ok_iff.mp h
  obtain ⟨indexers, hindexers, h⟩ := Written.bind_eq_ok_iff.mp h
  obtain ⟨calls, hcalls, h⟩ := Written.bind_eq_ok_iff.mp h
  split at h
  · cases h
  next hempty =>
      simp only [Traced.bind_result] at h
      obtain ⟨typeParams, htypeParams, h⟩ := Written.bind_eq_ok_iff.mp h
      cases h
      refine ⟨bases, properties, indexers, calls, typeParams, hbases, hproperties, hindexers,
        hcalls, htypeParams, fun hb hm => ?_, rfl⟩
      simpa [hb, hm] using hempty

end Options

theorem declared_of_importSpecifier {specifier : ImportSpecifier} {declared : Declaration}
    (h : specifier.declaration.result = .ok (some declared)) :
    (∃ origin imported bound, specifier = .named origin imported bound ∧
      declared = ⟨origin.comments, .importSpecifier imported.name bound.name⟩) ∨
    (∃ origin bound, specifier = .whole origin bound ∧
      declared = ⟨origin.comments, .wholeSpecifier bound.name⟩) ∨
    ∃ origin bound, specifier = .all origin bound ∧
      declared = ⟨origin.comments, .allSpecifier bound.name⟩ := by
  cases specifier with
  | named origin imported bound =>
      cases h
      exact .inl ⟨origin, imported, bound, rfl, rfl⟩
  | whole origin bound =>
      cases h
      exact .inr (.inl ⟨origin, bound, rfl, rfl⟩)
  | all origin bound =>
      cases h
      exact .inr (.inr ⟨origin, bound, rfl, rfl⟩)
  | unsupported kind => cases h

theorem declared_of_imports {root : String} {d : ImportDeclaration} {declared : Declaration}
    (h : (d.declaration root).result = .ok declared) :
    ∃ kept, (Traced.keep ImportSpecifier.declaration d.specifiers).result = .ok kept ∧
      declared.comments = d.origin.comments ∧
      declared.form = if kept.isEmpty then .effectImport (resolveSource root d.source.value)
        else .imports (!(kept.filter (·.form.isNamedSpecifier)).isEmpty)
          (kept.filter (!·.form.isNamedSpecifier) ++ kept.filter (·.form.isNamedSpecifier))
          (resolveSource root d.source.value) := by
  simp only [ImportDeclaration.declaration, Traced.bind_result] at h
  obtain ⟨kept, hkept, h⟩ := Written.bind_eq_ok_iff.mp h
  cases h
  exact ⟨kept, hkept, rfl, rfl⟩

namespace Options

variable {options : Options} {root : String}

/-- To prove something of all declarations of statements, prove it of one kind of
statement after the other, and of an export from what is exported. -/
theorem declared_induction {motive : Statement → Declaration → Prop}
    (imports : ∀ d declared, (d.declaration root).result = .ok declared →
      motive (.imports d) declared)
    (exportAll : ∀ d : ExportAll, motive (.exportAll d)
      ⟨d.origin.comments, .exportAll (resolveSource root d.source.value)⟩)
    (exported : ∀ origin inner specifiers source declared, motive inner declared →
      motive (.exportNamed origin (some inner) specifiers source)
        ⟨origin.comments, .exported declared⟩)
    (exportList : ∀ origin specifiers source declared,
      (options.exportList root origin specifiers source).result = .ok (some declared) →
      motive (.exportNamed origin none specifiers source) declared)
    (variableList : ∀ d declared, (options.variableList d).result = .ok (some declared) →
      motive (.variables d) declared)
    (function : ∀ d declared, (options.function d).result = .ok (some declared) →
      motive (.function d) declared)
    (classes : ∀ d declared, (options.classes d).result = .ok (some declared) →
      motive (.classes d) declared)
    (interface : ∀ d declared, (options.interface d).result = .ok (some declared) →
      motive (.interface d) declared) :
    ∀ statement declared, (options.declaration root statement).result = .ok (some declared) →
      motive statement declared
  | .imports d, declared, h => by
    obtain ⟨found, hfound, h⟩ := Written.bind_eq_ok_iff.mp (Traced.bind_result _ _ ▸ h)
    cases h
    exact imports d declared hfound
  | .exportAll d, declared, h => by
    cases h
    exact exportAll d
  | .exportNamed origin (some inner) specifiers source, declared, h => by
    obtain ⟨found, hfound, h⟩ := Written.bind_eq_ok_iff.mp (Traced.bind_result _ _ ▸ h)
    cases found with
    | none => cases h
    | some found =>
        cases h
        exact exported origin inner specifiers source found
          (declared_induction imports exportAll exported exportList variableList function classes
            interface inner found hfound)
  | .exportNamed origin none specifiers source, declared, h =>
    exportList origin specifiers source declared h
  | .variables d, declared, h => variableList d declared h
  | .function d, declared, h => function d declared h
  | .classes d, declared, h => classes d declared h
  | .interface d, declared, h => interface d declared h
  | .exportDefault _ _, _, h => by cases h
  | .unsupported _ _, _, h => by cases h

end Options

end Ambient
