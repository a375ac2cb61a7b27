import Ambient.Proofs.Declaration.Parts
import Ambient.Proofs.Emission.Declared
import Ambient.Proofs.Emission.Parameters

namespace Ambient

/-!
# Well-formed declarations

The layout of a declaration takes for granted that the parts of the declaration fit:
the specifiers of an import stand in order, lists that are written in braces are not
empty, and methods have names. Every declaration of a statement is of this form, at
every place inside it.
-/

theorem commaList_concat (texts : List String) (last : String) :
    commaList (texts ++ [last]) =
      if texts = [] then last else commaList texts ++ ", " ++ last := by
  unfold commaList
  induction texts with
  | nil => simp
  | cons first texts ih =>
      cases texts with
      | nil => simp [String.intercalate_cons_cons]
      | cons second texts =>
          simp only [List.cons_append, String.intercalate_cons_cons, reduceCtorEq, if_false,
            String.append_assoc] at ih ⊢
          rw [ih]

/-- The clause of an import: what stands without braces, then the braces, if there is
anything to put in them. -/
theorem Layout.imports_append (bare named : List String) (source : String) :
    Layout.imports (!named.isEmpty) (bare.map (Prod.mk false) ++ named.map (Prod.mk true)) source =
      "import " ++ commaList (bare ++
        if named = [] then [] else ["\x7b" ++ commaList named ++ "\x7d"]) ++
        " from '" ++ source ++ "';" := by
  have hbare : ((bare.map (Prod.mk false) ++ named.map (Prod.mk true)).filter (!·.1)).map (·.2) =
      bare := by
    simp [List.filter_map, Function.comp_def]
  have hnamed : ((bare.map (Prod.mk false) ++ named.map (Prod.mk true)).filter (·.1)).map (·.2) =
      named := by
    simp [List.filter_map, Function.comp_def]
  simp only [Layout.imports, hbare, hnamed]
  cases named with
  | nil => simp
  | cons first rest => simp [commaList_concat]

namespace DeclarationForm

/-- The entries of the parameter list that a form is written with. -/
def params : DeclarationForm → List Param
  | .function signature => signature.params
  | .interfaceMethod signature _ _ => signature.params
  | .interfaceCall signature => signature.params
  | .classMethod signature _ => signature.params
  | .classConstructor params => params
  | _ => []

def isImportSpecifier : DeclarationForm → Bool
  | .importSpecifier _ _ => true
  | .wholeSpecifier _ => true
  | .allSpecifier _ => true
  | _ => false

def isExportSpecifier : DeclarationForm → Bool
  | .exportSpecifier _ _ => true
  | _ => false

def isDeclarator : DeclarationForm → Bool
  | .declarator _ _ => true
  | _ => false

def isClassMember : DeclarationForm → Bool
  | .classMethod _ _ => true
  | .classConstructor _ => true
  | .classProperty _ _ _ => true
  | _ => false

def isInterfaceMember : DeclarationForm → Bool
  | .interfaceMethod _ _ _ => true
  | .interfaceProperty _ _ _ _ => true
  | .interfaceIndexer _ _ _ _ => true
  | .interfaceCall _ => true
  | _ => false

def isImplemented : DeclarationForm → Bool
  | .implemented _ _ => true
  | _ => false

/-- The declarations inside a form are of the right kinds, and there are some where the
layout or the options ask for them. -/
def PartsFit (options : Options) : DeclarationForm → Prop
  | .module _ _ => False
  | .imports enclosed specifiers _ =>
    specifiers ≠ [] ∧ (∀ part ∈ specifiers, part.form.isImportSpecifier = true) ∧
      (enclosed = true ↔ ∃ part ∈ specifiers, part.form.isNamedSpecifier = true) ∧
      ∃ bare named, specifiers = bare ++ named ∧
        (∀ part ∈ bare, part.form.isNamedSpecifier = false) ∧
        ∀ part ∈ named, part.form.isNamedSpecifier = true
  | .exportList specifiers _ =>
    specifiers ≠ [] ∧ ∀ part ∈ specifiers, part.form.isExportSpecifier = true
  | .variables _ declarators =>
    declarators ≠ [] ∧ ∀ part ∈ declarators, part.form.isDeclarator = true
  | .interface _ members bases _ =>
    (∀ part ∈ members, part.form.isInterfaceMember = true) ∧
      (options.ignoreEmptyInterfaces = true → members ≠ [] ∨ bases ≠ [])
  | .classes _ _ members _ _ interfaces =>
    (∀ part ∈ members, part.form.isClassMember = true) ∧
      (∀ part ∈ interfaces, part.form.isImplemented = true) ∧
      (options.ignoreEmptyClasses = true → members ≠ [])
  | _ => True

/-- Functions and methods have a name and call signatures have none; what belongs to an
interface has a result. -/
def SignatureFits : DeclarationForm → Prop
  | .function signature => signature.name.isSome = true
  | .classMethod signature _ => signature.name.isSome = true
  | .interfaceMethod signature _ _ =>
    signature.name.isSome = true ∧ signature.result.isSome = true
  | .interfaceCall signature => signature.name = none ∧ signature.result.isSome = true
  | _ => True

structure WellFormed (options : Options) (form : DeclarationForm) : Prop where
  parts : form.PartsFit options
  signature : form.SignatureFits
  /-- No parameter takes what is left of the arguments and is optional. -/
  params : ∀ param ∈ form.params, ¬ (param.isRest = true ∧ param.isOptional = true)

/-- A form without parameters. -/
theorem WellFormed.of_parts {options : Options} {form : DeclarationForm}
    (parts : form.PartsFit options) (signature : form.SignatureFits) (h : form.params = []) :
    form.WellFormed options :=
  ⟨parts, signature, by simp [h]⟩

theorem WellFormed.isModule_eq_false {options : Options} {form : DeclarationForm}
    (h : form.WellFormed options) : form.isModule = false := by
  cases form with
  | module name children => exact h.parts.elim
  | _ => rfl

/-- An import is written with all its specifiers: those without braces, then those in
braces. -/
def WritesSpecifiers : DeclarationForm → Prop
  | .imports enclosed specifiers source => ∃ bare named, specifiers = bare ++ named ∧
    ∀ layout : Layout, (DeclarationForm.imports enclosed specifiers source).text layout =
      "import " ++ commaList (bare.map (·.text layout) ++
        if named = [] then [] else ["\x7b" ++ commaList (named.map (·.text layout)) ++ "\x7d"]) ++
        " from '" ++ source ++ "';"
  | _ => True

theorem WellFormed.writesSpecifiers {options : Options} {form : DeclarationForm}
    (h : form.WellFormed options) : form.WritesSpecifiers := by
  cases form with
  | imports enclosed specifiers source =>
      obtain ⟨_, _, henclosed, bare, named, rfl, hbare, hnamed⟩ := h.parts
      refine ⟨bare, named, rfl, fun layout => ?_⟩
      have htexts : ∀ (parts : List Declaration) (mark : Bool),
          (∀ part ∈ parts, part.form.isNamedSpecifier = mark) →
          (parts.map fun d => (d.form.isNamedSpecifier, d.text layout)) =
            (parts.map (·.text layout)).map (Prod.mk mark) := by
        intro parts mark hparts
        rw [List.map_map]
        exact List.map_congr_left fun part hpart => by rw [hparts part hpart]; rfl
      have hbraces : enclosed = !named.isEmpty := by
        cases named with
        | nil =>
            have hnone : enclosed ≠ true := by
              rw [ne_eq, henclosed]
              rintro ⟨part, hpart, hname⟩
              rw [List.append_nil] at hpart
              simp [hbare part hpart] at hname
            simpa using hnone
        | cons first rest =>
            exact henclosed.mpr ⟨first, by simp, hnamed first List.mem_cons_self⟩
      have hempty : named.isEmpty = (named.map (·.text layout)).isEmpty := by simp
      rw [DeclarationForm.text, Declaration.specifierTexts_eq_map, List.map_append,
        htexts bare false hbare, htexts named true hnamed, hbraces, hempty,
        Layout.imports_append]
      simp only [List.map_eq_nil_iff]
  | _ => trivial

end DeclarationForm

theorem Declaration.Everywhere.imp {P Q : DeclarationForm → Prop} (h : ∀ form, P form → Q form)
    {d : Declaration} (hd : d.Everywhere P) : d.Everywhere Q := by
  induction hd with
  | intro here inside ih => exact .intro (h _ here) ih

/-- A declaration inside another one, of the right kind and without others inside. -/
structure Declaration.IsPart (options : Options) (kind : DeclarationForm → Bool)
    (d : Declaration) : Prop where
  kind : kind d.form = true
  wellFormed : d.form.WellFormed options
  leaf : d.form.parts = []

theorem Declaration.Everywhere.of_parts {options : Options} {d : Declaration}
    (here : d.form.WellFormed options)
    (h : ∀ part ∈ d.form.parts, ∃ kind, part.IsPart options kind) :
    d.Everywhere (DeclarationForm.WellFormed options) :=
  .intro here fun part hpart =>
    have ⟨_, hkind⟩ := h part hpart
    .leaf hkind.wellFormed hkind.leaf

theorem isPart_of_importSpecifier {specifier : ImportSpecifier} {declared : Declaration}
    (h : specifier.declaration.result = .ok (some declared)) (options : Options) :
    declared.IsPart options (·.isImportSpecifier) := by
  rcases declared_of_importSpecifier h with ⟨_, _, _, _, rfl⟩ | ⟨_, _, _, rfl⟩ | ⟨_, _, _, rfl⟩
  all_goals exact ⟨rfl, .of_parts trivial trivial rfl, rfl⟩

namespace Options

variable {options : Options} {root : String}

theorem not_rest_of_params {patterns : List Pattern} {params : List Param}
    (h : (Pattern.params patterns).result = .ok (some params)) :
    ∀ param ∈ params, ¬ (param.isRest = true ∧ param.isOptional = true) := by
  intro param hparam
  obtain ⟨_, _, hbecomes⟩ := exists_of_mem_forall₂ (Pattern.becomes_of_params h) hparam
  exact hbecomes.not_rest_of_optional

theorem not_rest_of_signature {name : Option String} {type : FunctionType} {signature : Signature}
    (h : type.signature name = .ok signature) :
    ∀ param ∈ signature.params, ¬ (param.isRest = true ∧ param.isOptional = true) := by
  intro param hparam
  obtain ⟨_, _, hslots⟩ := FunctionType.becomes_of_signature h
  obtain ⟨_, _, hbecomes⟩ := exists_of_mem_forall₂ hslots hparam
  exact hbecomes.not_rest_of_optional

theorem isPart_of_exportSpecifier {specifier : ExportSpecifier} {declared : Declaration}
    (h : (options.exportSpecifier specifier).result = .ok (some declared)) :
    declared.IsPart options (·.isExportSpecifier) := by
  obtain ⟨_, _, _, _, rfl⟩ := declared_of_exportSpecifier h
  exact ⟨rfl, .of_parts trivial trivial rfl, rfl⟩

theorem isPart_of_declarator {d : Declarator} {declared : Declaration}
    (h : (options.declarator d).result = .ok (some declared)) :
    declared.IsPart options (·.isDeclarator) := by
  obtain ⟨_, _, _, _, rfl⟩ := declared_of_declarator h
  exact ⟨rfl, .of_parts trivial trivial rfl, rfl⟩

theorem isPart_of_classMember {member : ClassMember} {declared : Declaration}
    (h : (options.classMember member).result = .ok (some declared)) :
    declared.IsPart options (·.isClassMember) := by
  obtain ⟨comments, form⟩ := declared
  rcases declared_of_classMember h with ⟨method, _, hmethod⟩ | ⟨property, _, hproperty⟩
  · obtain ⟨_, params, hparams, hform⟩ := declared_of_classMethod hmethod
    have hrest := not_rest_of_params hparams
    rcases hform with ⟨_, rfl⟩ | ⟨name, _, ⟨_, type, _, rfl⟩ | ⟨_, result, types, _, _, rfl⟩⟩
    · exact ⟨rfl, ⟨trivial, trivial, hrest⟩, rfl⟩
    · exact ⟨rfl, .of_parts trivial trivial rfl, rfl⟩
    · exact ⟨rfl, ⟨trivial, rfl, hrest⟩, rfl⟩
  · obtain ⟨name, type, _, _, hdeclared⟩ := declared_of_classProperty hproperty
    cases hdeclared
    exact ⟨rfl, .of_parts trivial trivial rfl, rfl⟩

theorem isPart_of_implemented {implemented : Implemented} {declared : Declaration}
    (h : implemented.declaration = .ok declared) : declared.IsPart options (·.isImplemented) := by
  obtain ⟨_, _, rfl⟩ := declared_of_implemented h
  exact ⟨rfl, .of_parts trivial trivial rfl, rfl⟩

theorem isPart_of_interfaceMember {member : ObjectMember} {declared : Declaration}
    (h : (options.interfaceMember member).result = .ok (some declared)) :
    declared.IsPart options (·.isInterfaceMember) := by
  obtain ⟨comments, form⟩ := declared
  obtain ⟨property, _, hproperty⟩ := declared_of_interfaceMember h
  obtain ⟨_, name, _, hform⟩ := declared_of_interfaceProperty hproperty
  rcases hform with ⟨type, signature, _, hsignature, rfl⟩ | ⟨type, _, rfl⟩
  · obtain ⟨hname, hresult, _⟩ := FunctionType.becomes_of_signature hsignature
    exact ⟨rfl, ⟨trivial, ⟨by simp [hname], hresult⟩, not_rest_of_signature hsignature⟩, rfl⟩
  · exact ⟨rfl, .of_parts trivial trivial rfl, rfl⟩

theorem isPart_of_indexer {indexer : Indexer} {declared : Declaration}
    (h : indexer.declaration = .ok declared) : declared.IsPart options (·.isInterfaceMember) := by
  obtain ⟨_, _, _, _, rfl⟩ := declared_of_indexer h
  exact ⟨rfl, .of_parts trivial trivial rfl, rfl⟩

theorem isPart_of_callProperty {call : CallProperty} {declared : Declaration}
    (h : call.declaration = .ok declared) : declared.IsPart options (·.isInterfaceMember) := by
  obtain ⟨signature, hsignature, rfl⟩ := declared_of_callProperty h
  obtain ⟨hname, hresult, _⟩ := FunctionType.becomes_of_signature hsignature
  exact ⟨rfl, ⟨trivial, ⟨hname, hresult⟩, not_rest_of_signature hsignature⟩, rfl⟩

/-- The parts of a list that are kept are of the kind that each of them is. -/
theorem forall_isPart_of_keep {α : Type} {f : α → Traced (Option Declaration)} {l : List α}
    {kept : List Declaration} {kind : DeclarationForm → Bool}
    (h : ∀ a declared, (f a).result = .ok (some declared) → declared.IsPart options kind)
    (hkept : (Traced.keep f l).result = .ok kept) : ∀ part ∈ kept, part.IsPart options kind := by
  intro part hpart
  obtain ⟨a, _, ha⟩ := Traced.exists_of_mem_keep hkept hpart
  exact h a part ha

theorem forall_isPart_of_each {α : Type} {f : α → Written Declaration} {l : List α}
    {parts : List Declaration} {kind : DeclarationForm → Bool}
    (h : ∀ a declared, f a = .ok declared → declared.IsPart options kind)
    (hparts : Written.each f l = .ok parts) : ∀ part ∈ parts, part.IsPart options kind := by
  intro part hpart
  obtain ⟨a, _, ha⟩ := Written.exists_of_mem_each hparts hpart
  exact h a part ha

theorem wellFormed_of_imports {d : ImportDeclaration} {declared : Declaration}
    (h : (d.declaration root).result = .ok declared) :
    declared.Everywhere (DeclarationForm.WellFormed options) := by
  obtain ⟨comments, form⟩ := declared
  obtain ⟨kept, hkept, _, hform⟩ := declared_of_imports h
  have hspecifiers : ∀ part ∈ kept, part.IsPart options (·.isImportSpecifier) :=
    forall_isPart_of_keep (fun _ _ hs => isPart_of_importSpecifier hs options) hkept
  cases hempty : kept.isEmpty with
  | true =>
      rw [hempty, if_pos rfl] at hform
      cases hform
      exact .leaf (.of_parts trivial trivial rfl) rfl
  | false =>
      rw [hempty, if_neg (by simp)] at hform
      cases hform
      have hparts : ∀ part ∈ kept.filter (!·.form.isNamedSpecifier) ++
          kept.filter (·.form.isNamedSpecifier), part.IsPart options (·.isImportSpecifier) := by
        intro part hpart
        rcases List.mem_append.mp hpart with hbare | hnamed
        · exact hspecifiers part (List.mem_filter.mp hbare).1
        · exact hspecifiers part (List.mem_filter.mp hnamed).1
      refine .of_parts (.of_parts ⟨?nonempty, fun part hpart => (hparts part hpart).kind,
        ?enclosed, _, _, rfl, ?bare, ?named⟩ trivial rfl) fun part hpart => ⟨_, hparts part hpart⟩
      case nonempty =>
        obtain ⟨first, rest, rfl⟩ := List.exists_cons_of_ne_nil (l := kept) (by simpa using hempty)
        cases hfirst : first.form.isNamedSpecifier <;> simp [hfirst]
      case enclosed =>
        rw [Bool.not_eq_true', List.isEmpty_eq_false_iff_exists_mem]
        constructor
        · rintro ⟨part, hpart⟩
          exact ⟨part, List.mem_append_right _ hpart, (List.mem_filter.mp hpart).2⟩
        · rintro ⟨part, hpart, hnamed⟩
          exact ⟨part, List.mem_filter.mpr ⟨by simpa [hnamed] using hpart, hnamed⟩⟩
      case bare =>
        intro part hpart
        simpa using (List.mem_filter.mp hpart).2
      case named => exact fun part hpart => (List.mem_filter.mp hpart).2

theorem wellFormed_of_exportList {origin : Origin} {specifiers : List ExportSpecifier}
    {source : Option StringLiteral} {declared : Declaration}
    (h : (options.exportList root origin specifiers source).result = .ok (some declared)) :
    declared.Everywhere (DeclarationForm.WellFormed options) := by
  obtain ⟨kept, hkept, hne, rfl⟩ := declared_of_exportList h
  have hparts := forall_isPart_of_keep (fun _ _ => isPart_of_exportSpecifier) hkept
  exact .of_parts (.of_parts ⟨hne, fun part hpart => (hparts part hpart).kind⟩ trivial rfl)
    fun part hpart => ⟨_, hparts part hpart⟩

theorem wellFormed_of_variableList {d : VariableDeclaration} {declared : Declaration}
    (h : (options.variableList d).result = .ok (some declared)) :
    declared.Everywhere (DeclarationForm.WellFormed options) := by
  obtain ⟨kept, hkept, hne, rfl⟩ := declared_of_variableList h
  have hparts := forall_isPart_of_keep (fun _ _ => isPart_of_declarator) hkept
  exact .of_parts (.of_parts ⟨hne, fun part hpart => (hparts part hpart).kind⟩ trivial rfl)
    fun part hpart => ⟨_, hparts part hpart⟩

theorem wellFormed_of_function {d : FunctionDeclaration} {declared : Declaration}
    (h : (options.function d).result = .ok (some declared)) :
    declared.Everywhere (DeclarationForm.WellFormed options) := by
  obtain ⟨_, params, _, _, _, hparams, _, _, rfl⟩ := declared_of_function h
  exact .leaf ⟨trivial, rfl, not_rest_of_params hparams⟩ rfl

theorem wellFormed_of_classes {d : ClassDeclaration} {declared : Declaration}
    (h : (options.classes d).result = .ok (some declared)) :
    declared.Everywhere (DeclarationForm.WellFormed options) := by
  obtain ⟨_, members, interfaces, _, _, _, hmembers, hinterfaces, _, _, hempty, _, _, rfl⟩ :=
    declared_of_classes h
  have hmember := forall_isPart_of_keep (fun _ _ => isPart_of_classMember) hmembers
  have hinterface : ∀ part ∈ interfaces, part.IsPart options (·.isImplemented) :=
    forall_isPart_of_each (fun _ _ => isPart_of_implemented) hinterfaces
  refine .of_parts (.of_parts ⟨fun part hpart => (hmember part hpart).kind,
    fun part hpart => (hinterface part hpart).kind, fun hignore hnil => ?_⟩ trivial rfl)
    fun part hpart => ?_
  · rw [hempty hnil] at hignore
    cases hignore
  · rcases List.mem_append.mp hpart with hpart | hpart
    · exact ⟨_, hmember part hpart⟩
    · exact ⟨_, hinterface part hpart⟩

theorem wellFormed_of_interface {d : InterfaceDeclaration} {declared : Declaration}
    (h : (options.interface d).result = .ok (some declared)) :
    declared.Everywhere (DeclarationForm.WellFormed options) := by
  obtain ⟨bases, properties, indexers, calls, _, _, hproperties, hindexers, hcalls, _, hempty,
    rfl⟩ := declared_of_interface h
  have hmember : ∀ part ∈ properties ++ indexers ++ calls,
      part.IsPart options (·.isInterfaceMember) := by
    intro part hpart
    rcases List.mem_append.mp hpart with hpart | hcall
    · rcases List.mem_append.mp hpart with hproperty | hindexer
      · exact forall_isPart_of_keep (fun _ _ => isPart_of_interfaceMember) hproperties part hproperty
      · exact forall_isPart_of_each (fun _ _ => isPart_of_indexer) hindexers part hindexer
    · exact forall_isPart_of_each (fun _ _ => isPart_of_callProperty) hcalls part hcall
  refine .of_parts (.of_parts ⟨fun part hpart => (hmember part hpart).kind, fun hignore => ?_⟩
    trivial rfl) fun part hpart => ⟨_, hmember part hpart⟩
  by_contra hnone
  obtain ⟨hmembers, hbases⟩ := not_or.mp hnone
  rw [hempty (not_not.mp hbases) (not_not.mp hmembers)] at hignore
  cases hignore

theorem wellFormed_of_declaration (statement : Statement) (declared : Declaration)
    (h : (options.declaration root statement).result = .ok (some declared)) :
    declared.Everywhere (DeclarationForm.WellFormed options) := by
  refine declared_induction
    (motive := fun _ declared => declared.Everywhere (DeclarationForm.WellFormed options))
    (fun _ _ => wellFormed_of_imports)
    (fun d => .leaf (.of_parts trivial trivial rfl) rfl) ?exported
    (fun _ _ _ _ => wellFormed_of_exportList) (fun _ _ => wellFormed_of_variableList)
    (fun _ _ => wellFormed_of_function) (fun _ _ => wellFormed_of_classes)
    (fun _ _ => wellFormed_of_interface) statement declared h
  case exported =>
    intro origin inner specifiers source declared hdeclared
    refine .intro (.of_parts trivial trivial rfl) fun part hpart => ?_
    rw [List.mem_singleton.mp hpart]
    exact hdeclared

/-- What a statement is declared as is well-formed at every place inside it, and an import in
it is written with all its specifiers. -/
theorem everywhere_wellFormed (options : Options) (root : String) (statement : Statement)
    (declared : Declaration)
    (h : (options.declaration root statement).result = .ok (some declared)) :
    declared.Everywhere fun form => form.WellFormed options ∧ form.WritesSpecifiers := by
  have hwell := wellFormed_of_declaration statement declared h
  exact hwell.imp fun _ hform => ⟨hform, hform.writesSpecifiers⟩

/-- `import {x as y}, d from './m'`, with a specifier of a kind that is not known. -/
def sampleMixedImport : Statement :=
  .imports ⟨{}, [.named {} ⟨{}, "x", none, false⟩ ⟨{}, "y", none, false⟩, .unsupported "Other",
    .whole {} ⟨{}, "d", none, false⟩], { value := "./m" }⟩

def sampleMixedDeclared : Declaration :=
  ⟨[], .imports true [⟨[], .wholeSpecifier "d"⟩, ⟨[], .importSpecifier "x" "y"⟩] "pkg/m"⟩

theorem everywhere_wellFormed_mixedImport :
    (({} : Options).declaration "pkg" sampleMixedImport).result = .ok (some sampleMixedDeclared) ∧
      sampleMixedDeclared.Everywhere fun form => form.WellFormed {} ∧ form.WritesSpecifiers :=
  ⟨rfl, everywhere_wellFormed {} "pkg" sampleMixedImport sampleMixedDeclared rfl⟩

end Options

end Ambient
