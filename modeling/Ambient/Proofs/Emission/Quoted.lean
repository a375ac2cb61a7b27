import Ambient.Proofs.Emission.Ingredients
import Ambient.Proofs.Run.Sources

namespace Ambient

open Lexical

/-!
# Literals in a document

The name of the module, the sources of imports and exports, and the keys of members stand in a
document between quotes. They are put there as they are, so they make literals for themselves
exactly if they have no character that has to be escaped.
-/

/-- The parts of a list that are not left out. -/
def Traced.kept {α β : Type} (f : α → Traced (Option β)) (l : List α) : List α :=
  l.filter fun a =>
    match (f a).result with
    | .ok (some _) => true
    | _ => false

/-- What a statement is declared with, without what stands in a statement inside it. -/
def Statement.ingredients (options : Options) : Statement → List Ingredient
  | .variables d => (Traced.kept options.declarator d.declarators).flatMap Declarator.ingredients
  | .function d => signatureIngredients d.params d.result d.typeParams
  | .classes d => (Traced.kept options.classMember d.members).flatMap ClassMember.ingredients ++
    (d.typeParams.flatMap TypeParam.types ++
      (if d.superclass.isSome then d.superArguments else []) ++
      d.implemented.flatMap (·.arguments)).map .type
  | .interface d =>
    (Traced.kept options.interfaceMember d.body.properties).flatMap ObjectMember.ingredients ++
    (d.bases.flatMap (·.arguments) ++ d.typeParams.flatMap TypeParam.types ++
      d.body.indexers.flatMap Indexer.types ++
      d.body.calls.flatMap fun call => call.value.types).map .type
  | _ => []

/-- A statement puts a text between quotes: its source as it is written into the document, or a
key of something that it is declared with. -/
inductive Statement.Quotes (options : Options) (root value : String) : Statement → Prop
  | source {statement : Statement} {source : String} (hsource : statement.source? = some source)
      (hvalue : resolveSource root source = value) : Statement.Quotes options root value statement
  | ingredient {statement : Statement} {ingredient : Ingredient}
      (hmem : ingredient ∈ statement.ingredients options) (h : ingredient.Quotes value) :
      Statement.Quotes options root value statement
  | exported {origin : Origin} {inner : Statement} {specifiers : List ExportSpecifier}
      {source : Option StringLiteral} (h : Statement.Quotes options root value inner) :
      Statement.Quotes options root value (.exportNamed origin (some inner) specifiers source)

theorem Traced.exists_of_mem_kept {α β : Type} {f : α → Traced (Option β)} {l : List α}
    {bs : List β} (h : (keep f l).result = .ok bs) {a : α} (ha : a ∈ kept f l) :
    ∃ b ∈ bs, (f a).result = .ok (some b) := by
  obtain ⟨hmem, hkept⟩ := List.mem_filter.mp ha
  split at hkept
  next b hb =>
      refine ⟨b, ?_, hb⟩
      obtain ⟨outcomes, hmap, rfl⟩ := (keep_eq_ok_iff f l bs).mp h
      have hresult : (f a).result ∈ outcomes.map Except.ok := by
        rw [← hmap]
        exact List.mem_map_of_mem hmem
      obtain ⟨outcome, houtcome, heq⟩ := List.mem_map.mp hresult
      rw [hb] at heq
      cases heq
      exact List.mem_filterMap.mpr ⟨some b, houtcome, rfl⟩
  next => cases hkept

section

variable {options : Options} {layout : Layout} {value : String} {ingredient : Ingredient}
  {declared : Declaration}

namespace Options

variable {root : String}

theorem shows_of_variableList {d : VariableDeclaration}
    (h : (options.variableList d).result = .ok (some declared))
    (hmem : ingredient ∈ (Statement.variables d).ingredients options)
    (hquotes : ingredient.Quotes value) : declared.Shows layout (Text.inQuotes value) := by
  obtain ⟨parts, hparts, -, rfl⟩ := declared_of_variableList h
  obtain ⟨declarator, hdeclarator, hmem⟩ := List.mem_flatMap.mp hmem
  obtain ⟨part, hpart, hdeclared⟩ := Traced.exists_of_mem_kept hparts hdeclarator
  exact .inside hpart (declarator.shows hdeclared hmem hquotes)

theorem shows_of_function (hstep : ∀ c ∈ layout.step.toList, c = ' ') {d : FunctionDeclaration}
    (h : (options.function d).result = .ok (some declared))
    (hmem : ingredient ∈ (Statement.function d).ingredients options)
    (hquotes : ingredient.Quotes value) : declared.Shows layout (Text.inQuotes value) := by
  obtain ⟨id, params, result, typeParams, -, hparams, hresult, htypeParams, rfl⟩ :=
    declared_of_function h
  exact .of_signature hstep hparams hresult htypeParams (List.Subset.refl _) hmem hquotes

theorem shows_of_classes (hstep : ∀ c ∈ layout.step.toList, c = ' ') {d : ClassDeclaration}
    (h : (options.classes d).result = .ok (some declared))
    (hmem : ingredient ∈ (Statement.classes d).ingredients options)
    (hquotes : ingredient.Quotes value) : declared.Shows layout (Text.inQuotes value) := by
  obtain ⟨id, members, implemented, typeParams, superArguments, -, hmembers, himplemented,
    htypeParams, hsuper, -, superName, hsuperclass, rfl⟩ := declared_of_classes h
  rcases List.mem_append.mp hmem with hmem | hmem
  · obtain ⟨member, hmember, hmem⟩ := List.mem_flatMap.mp hmem
    obtain ⟨part, hpart, hdeclared⟩ := Traced.exists_of_mem_kept hmembers hmember
    exact .inside (List.mem_append_left _ hpart) (member.shows hstep hdeclared hmem hquotes)
  · obtain ⟨type, htype, rfl⟩ := List.mem_map.mp hmem
    rcases List.mem_append.mp htype with htype | htype
    · refine .of_type ?_ hquotes
      rcases List.mem_append.mp htype with htype | htype
      · exact (TypeParam.writtenAmong_texts htypeParams htype).of_subset
          (List.subset_append_left _ _)
      · cases superName with
        | none =>
            rw [hsuperclass] at htype
            cases htype
        | some superName =>
            rw [hsuperclass] at htype
            exact (FlowType.writtenAmong_texts hsuper htype).of_subset
              (List.subset_append_right _ _)
    · obtain ⟨base, hbase, htype⟩ := List.mem_flatMap.mp htype
      obtain ⟨part, hpart, hdeclared⟩ := Written.exists_mem_of_each himplemented hbase
      exact .inside (List.mem_append_right _ hpart) (base.shows hdeclared htype hquotes)

theorem shows_of_interface {d : InterfaceDeclaration}
    (h : (options.interface d).result = .ok (some declared))
    (hmem : ingredient ∈ (Statement.interface d).ingredients options)
    (hquotes : ingredient.Quotes value) : declared.Shows layout (Text.inQuotes value) := by
  obtain ⟨bases, properties, indexers, calls, typeParams, hbases, hproperties, hindexers, hcalls,
    htypeParams, -, rfl⟩ := declared_of_interface h
  rcases List.mem_append.mp hmem with hmem | hmem
  · obtain ⟨member, hmember, hmem⟩ := List.mem_flatMap.mp hmem
    obtain ⟨part, hpart, hdeclared⟩ := Traced.exists_of_mem_kept hproperties hmember
    exact .inside (List.mem_append_left _ (List.mem_append_left _ hpart))
      (member.shows hdeclared hmem hquotes)
  · obtain ⟨type, htype, rfl⟩ := List.mem_map.mp hmem
    rcases List.mem_append.mp htype with htype | hcall
    · rcases List.mem_append.mp htype with htype | hindexer
      · refine .of_type ?_ hquotes
        rcases List.mem_append.mp htype with hbase | htypeParam
        · obtain ⟨base, hbase, htype⟩ := List.mem_flatMap.mp hbase
          obtain ⟨text, htext, hwritten⟩ := Written.exists_mem_of_each hbases hbase
          exact ⟨text, List.mem_append_left _ htext, base.writtenIn_text hwritten htype⟩
        · exact (TypeParam.writtenAmong_texts htypeParams htypeParam).of_subset
            (List.subset_append_right _ _)
      · obtain ⟨indexer, hindexer, htype⟩ := List.mem_flatMap.mp hindexer
        obtain ⟨part, hpart, hdeclared⟩ := Written.exists_mem_of_each hindexers hindexer
        exact .inside (List.mem_append_left _ (List.mem_append_right _ hpart))
          (indexer.shows hdeclared htype hquotes)
    · obtain ⟨call, hcall, htype⟩ := List.mem_flatMap.mp hcall
      obtain ⟨part, hpart, hdeclared⟩ := Written.exists_mem_of_each hcalls hcall
      exact .inside (List.mem_append_right _ hpart) (call.shows hdeclared htype hquotes)

theorem pieces_of_source? {declared : Declaration} {source : String}
    (h : declared.source? = some source) (layout : Layout) :
    Text.inQuotes source ∈ declared.form.pieces layout := by
  obtain ⟨comments, form⟩ := declared
  cases form with
  | effectImport found =>
      cases h
      exact List.mem_singleton_self _
  | imports enclosed specifiers found =>
      cases h
      exact List.mem_singleton_self _
  | exportAll found =>
      cases h
      exact List.mem_singleton_self _
  | exportList specifiers found =>
      obtain rfl : found = some source := h
      exact List.mem_singleton_self _
  | _ => cases h

theorem shows_of_declaration (hstep : ∀ c ∈ layout.step.toList, c = ' ') {statement : Statement}
    (h : (options.declaration root statement).result = .ok (some declared))
    (hquotes : statement.Quotes options root value) :
    declared.Shows layout (Text.inQuotes value) := by
  -- Exports may stand around the statement that the text comes from.
  induction hquotes generalizing declared with
  | source hsource hvalue =>
      have hdeclared := source?_of_declaration _ declared h _ hsource
      rw [hvalue] at hdeclared
      exact .here (pieces_of_source? hdeclared layout) (.refl _)
  | @ingredient statement _ hmem hquotes =>
      cases statement with
      | «variables» d => exact shows_of_variableList h hmem hquotes
      | function d => exact shows_of_function hstep h hmem hquotes
      | classes d => exact shows_of_classes hstep h hmem hquotes
      | interface d => exact shows_of_interface h hmem hquotes
      | _ => cases hmem
  | exported _ ih =>
      obtain ⟨found, hfound, hdeclared⟩ := Written.bind_eq_ok_iff.mp (Traced.bind_result _ _ ▸ h)
      cases found with
      | none => cases hdeclared
      | some found =>
          cases hdeclared
          exact .inside (List.mem_singleton_self found) (ih hfound)

end Options

end

/-- A document puts a text between quotes: as the name of its module, or in a statement that is
declared in it. -/
inductive Options.Quotes (options : Options) (root moduleId : String) (collected : Collected)
    (value : String) : Prop
  | module (hambient : options.suppressAmbient = false)
      (hname : options.moduleName root moduleId = value)
  | statement {statement : Statement} {declared : Declaration}
      (hmem : statement ∈ collected.statements)
      (hdeclared : (options.declaration root statement).result = .ok (some declared))
      (h : statement.Quotes options root value)

namespace Options

variable {options : Options} {root moduleId text value : String} {collected : Collected}

theorem layout_step_blank (options : Options) : ∀ c ∈ options.layout.step.toList, c = ' ' := by
  have hstep : options.layout.step = "  " := rfl
  simp [hstep]

theorem Quotes.shows (h : options.Quotes root moduleId collected value)
    {children : List Declaration}
    (hchildren : (options.declarations root collected.statements).result = .ok children) :
    (Declaration.mk [] (.module (options.moduleName root moduleId) children)).Shows
      options.layout (Text.inQuotes value) := by
  cases h with
  | module hambient hname =>
      refine .here ?_ (.refl _)
      have hlayout : ¬ options.layout.suppressAmbient = true := by
        rw [show options.layout.suppressAmbient = options.suppressAmbient from rfl, hambient]
        exact Bool.false_ne_true
      rw [DeclarationForm.pieces, if_neg hlayout, hname]
      exact List.mem_singleton_self _
  | @statement statement declared hmem hdeclared h =>
      have hkept : statement ∈ Traced.kept (options.declaration root) collected.statements :=
        List.mem_filter.mpr ⟨hmem, by rw [hdeclared]⟩
      obtain ⟨child, hchild, hsame⟩ := Traced.exists_of_mem_kept hchildren hkept
      cases hdeclared.symm.trans hsame
      exact .inside hchild (shows_of_declaration options.layout_step_blank hdeclared h)

theorem Quotes.within (h : options.Quotes root moduleId collected value)
    (htext : (options.generate root moduleId collected).result = .ok text) :
    Text.Within (Text.inQuotes value) text := by
  rw [generate_result] at htext
  obtain ⟨children, hchildren, htext⟩ := Written.bind_eq_ok_iff.mp htext
  cases htext
  have hwrites : (Declaration.mk []
      (.module (options.moduleName root moduleId) children)).Everywhere
        DeclarationForm.WritesSpecifiers := by
    refine .intro trivial fun child hchild => ?_
    obtain ⟨statement, -, hdeclared⟩ := Traced.exists_of_mem_keep hchildren hchild
    exact (wellFormed_of_declaration statement child hdeclared).imp fun _ => (·.writesSpecifiers)
  have hwithin := Declaration.within_of_shows options.layout_step_blank options.layout_step_blank
    hwrites (h.shows hchildren)
  exact (hwithin.trans (Declaration.within_text _)).append_right _

/-- Whatever a document puts between quotes stands in it between quotes, as it is but for the
blanks behind its newlines. There the document is read as a literal for it exactly if none of
its characters has to be escaped. -/
theorem generate_literal_iff (h : (options.generate root moduleId collected).result = .ok text)
    (hquotes : options.Quotes root moduleId collected value) :
    ∃ before step after, (∀ c ∈ step.toList, c = ' ') ∧
      text = before ++ (Text.hang step (Text.inQuotes value) ++ after) ∧
      (firstLiteral? (Text.hang step (Text.inQuotes value) ++ after) =
          some (Text.hang step (Text.inQuotes value), textUnits value) ↔
        ∀ c ∈ value.toList, needsEscape c = false) := by
  obtain ⟨before, step, after, hstep, hsplit⟩ := hquotes.within h
  rw [String.append_assoc] at hsplit
  exact ⟨before, step, after, hstep, hsplit, firstLiteral?_inQuotes_iff hstep value after⟩

/-- `interface I { 'a-b': string }`, where the text of the key in the source is not known. -/
def sampleQuotedKey : Collected where
  imports := []
  interfaces := [.interface ⟨{}, ⟨{}, "I", none, false⟩, [], [],
    ⟨[.property ⟨{}, .string { value := "a-b" }, .string, false, false⟩], [], []⟩⟩]
  exports := []

theorem generate_literal_iff_quotedKey :
    let options : Options := { filter := .keepAll }
    ∃ text, (options.generate "pkg" "pkg/m" sampleQuotedKey).result = .ok text ∧
      options.Quotes "pkg" "pkg/m" sampleQuotedKey "a-b" ∧
      ∃ before step after, text = before ++ (Text.hang step "'a-b'" ++ after) ∧
        firstLiteral? (Text.hang step "'a-b'" ++ after) =
          some (Text.hang step "'a-b'", textUnits "a-b") := by
  intro options
  have hquotes : options.Quotes "pkg" "pkg/m" sampleQuotedKey "a-b" :=
    .statement List.mem_cons_self rfl
      (.ingredient (show .key (.string { value := "a-b" }) ∈ _ from List.mem_cons_self) rfl)
  obtain ⟨before, step, after, -, hsplit, hiff⟩ :=
    generate_literal_iff (show (options.generate "pkg" "pkg/m" sampleQuotedKey).result = .ok _
      from rfl) hquotes
  have hplain : ∀ c ∈ "a-b".toList, needsEscape c = false := by
    simp [needsEscape]
  exact ⟨_, rfl, hquotes, before, step, after, hsplit, hiff.mpr hplain⟩

/-- `import "it's"` -/
def sampleApostrophe : Collected where
  imports := [.imports ⟨{}, [], { value := "it's" }⟩]
  interfaces := []
  exports := []

/-- The literal that begins where this source is put between quotes ends at its apostrophe. -/
theorem apostrophe_ends_literal :
    (({} : Options).generate "pkg" "pkg/m" sampleApostrophe).result =
        .ok ("declare module 'pkg/m' \x7b\n  import " ++ "'it's';\n\x7d\n") ∧
      ({} : Options).Quotes "pkg" "pkg/m" sampleApostrophe "it's" ∧
      firstLiteral? "'it's';\n\x7d\n" = some ("'it'", textUnits "it") ∧
      textUnits "it" ≠ textUnits "it's" ∧
      literalUnits? (Text.quote "it's") = some (textUnits "it's") := by
  refine ⟨by rfl, .statement List.mem_cons_self rfl (.source rfl rfl), ?_, by decide,
    literalUnits?_quote "it's"⟩
  have hquote : "'it'".toList.head? = some '\'' := rfl
  have hliteral : literalUnits? "'it'" = some (textUnits "it") := by cbv
  exact (firstLiteral?_append_iff hquote "s';\n\x7d\n" _).mpr hliteral

end Options

end Ambient
