import Ambient.Proofs.Emission.Declared
import Ambient.Proofs.Emission.Document
import Ambient.Proofs.Files.Paths
import Ambient.Proofs.Run.Outputs

namespace Ambient

/-!
# What a relative source refers to

A source that starts with `./` is read from the module root, wherever the file stands
that it is written in. It is the id of the module that it leads to from there, and so
it is the id of the module next to the file only if the file stands in the module root
itself.
-/

theorem stepNames?_of_names {steps : List Step} {names : List String}
    (h : steps.map Step.component = names.map .name) : stepNames? steps = some names := by
  induction steps generalizing names with
  | nil =>
      have hnil : names = [] := by simpa [eq_comm] using h
      rw [hnil]
      rfl
  | cons step steps ih =>
      obtain ⟨gap, component⟩ := step
      cases names with
      | nil => cases h
      | cons name names =>
          obtain ⟨hcomponent, hrest⟩ := List.cons.inj h
          cases hcomponent
          simp [stepNames?, ih hrest]

theorem withoutEnding_append (ending text : String) :
    withoutEnding ending (text ++ ending) = text := by
  have hsuffix : ending.toList.isSuffixOf (text ++ ending).toList = true := by
    simp
  rw [withoutEnding, if_pos hsuffix]
  apply String.toList_inj.mp
  simp [← String.length_toList]

theorem moduleStem_append (stem : String) : moduleStem (stem ++ ".js.json") = stem := by
  have hendings : stem ++ ".js.json" = stem ++ ".js" ++ ".json" := by
    rw [String.append_assoc]
    rfl
  rw [moduleStem, hendings, withoutEnding_append, withoutEnding_append]

/-- The id of a module tells the names on the way to its file. -/
theorem moduleId_of_components (package : String) (root file : Path) (directory source : String)
    (h : file.components = root.components ++
      (Path.names directory ++ Path.names (source ++ ".js.json")).map .name) (t : FileTree) :
    (moduleId package root file : TreeAction ModuleError String).run t =
      (.ok (package ++ "/" ++ "/".intercalate (Path.names directory ++ Path.sourceNames source)),
        t) := by
  obtain ⟨front, last, hpieces⟩ := Path.exists_pieces_concat ⟨source⟩
  have hnames : Path.names (source ++ ".js.json") =
      front.filter (· ≠ "") ++ [last ++ ".js.json"] := by
    rw [Path.names, Path.pieces_append_ending hpieces (by decide), List.filter_append]
    simp
  obtain ⟨steps, hbelow, hsteps⟩ := Path.exists_stepsBelow? h
  have hid : moduleIdBelow package file steps =
      .ok (package ++ "/" ++
        "/".intercalate (Path.names directory ++ Path.sourceNames source)) := by
    rw [moduleIdBelow, stepNames?_of_names hsteps, hnames]
    simp [← List.append_assoc, moduleStem_append, Path.sourceNames, hpieces]
  unfold moduleId stepsFromRoot Path.below?
  rw [hbelow, TreeAction.run_bind]
  change (moduleIdBelow package file steps, t) = _
  rw [hid]

/-- The source that a statement names, unless it is an export of a declaration. -/
def Statement.source? : Statement → Option String
  | .imports d => some d.source.value
  | .exportAll d => some d.source.value
  | .exportNamed _ none _ source => source.map (·.value)
  | _ => none

/-- The source that a declaration names. -/
def Declaration.source? (declaration : Declaration) : Option String :=
  match declaration.form with
  | .effectImport source => some source
  | .imports _ _ source => some source
  | .exportAll source => some source
  | .exportList _ source => source
  | _ => none

theorem Options.source?_of_declaration {options : Options} {root : String} :
    ∀ statement declared, (options.declaration root statement).result = .ok (some declared) →
      ∀ source, statement.source? = some source →
        declared.source? = some (resolveSource root source) := by
  apply declared_induction
  case imports =>
    intro d declared h source hsource
    cases hsource
    obtain ⟨kept, -, -, hform⟩ := declared_of_imports h
    unfold Declaration.source?
    rw [hform]
    by_cases hkept : kept.isEmpty = true
    · rw [if_pos hkept]
    · rw [if_neg hkept]
  case exportAll =>
    intro d source hsource
    cases hsource
    rfl
  case exportList =>
    intro origin specifiers source declared h found hfound
    obtain ⟨literal, rfl, rfl⟩ := Option.map_eq_some_iff.mp hfound
    obtain ⟨kept, -, -, rfl⟩ := declared_of_exportList h
    rfl
  all_goals
    intros
    contradiction

/-- A document says in front which module it is the document of. -/
theorem Options.generate_names_module {options : Options} {root moduleId text : String}
    {collected : Collected} (hpath : options.suppressModulePath = false)
    (hambient : options.suppressAmbient = false)
    (h : (options.generate root moduleId collected).result = .ok text) :
    ∃ rest, text = "declare module '" ++ moduleId ++ "' \x7b\n" ++ rest := by
  have hsame : ({ options with suppressAmbient := false } : Options) = options := by
    rw [← hambient]
  have hname : options.moduleName root moduleId = moduleId := by
    simp [moduleName, hpath]
  rcases options.exists_declares_or_error root moduleId collected with ⟨e, he⟩ | ⟨outcomes, hdone⟩
  · rw [he] at h
    cases h
  · have htext : (options.generate root moduleId collected).result = .ok _ :=
      hsame ▸ generate_ambient hdone
    rw [h, hname] at htext
    cases htext
    exact ⟨_, String.append_assoc⟩

/-- A relative source is the id of the module that it leads to from the module root. So
it is the id of the module in the file next to it exactly if the file that it is written
in stands in the root. -/
theorem source_names_module_below_root (package : String) (root : Path)
    {directory source : String} (hdirectory : Path.LeadsDown directory)
    (hsource : Path.LeadsDown source) :
    (∀ (options : Options) (statement : Statement) (declared : Declaration),
      (options.declaration package statement).result = .ok (some declared) →
      statement.source? = some ("./" ++ source) →
      declared.source? = some (resolveSource package ("./" ++ source))) ∧
    (Path.IsTidy source → ∀ t,
      (moduleId package root (root.join (source ++ ".js.json")) :
        TreeAction ModuleError String).run t =
          (.ok (resolveSource package ("./" ++ source)), t)) ∧
    ∃ id,
      (∀ t, (moduleId package root ((root.join directory).join (source ++ ".js.json")) :
        TreeAction ModuleError String).run t = (.ok id, t)) ∧
      (resolveSource package ("./" ++ source) = id ↔ directory = "" ∧ Path.IsTidy source) ∧
      ∀ (options : Options) (collected : Collected) (text : String),
        options.suppressModulePath = false → options.suppressAmbient = false →
        (options.generate package id collected).result = .ok text →
        ∃ rest, text = "declare module '" ++ id ++ "' \x7b\n" ++ rest := by
  have hfile : Path.LeadsDown (source ++ ".js.json") :=
    hsource.append_ending (by decide) (by decide)
  have hresolved : resolveSource package ("./" ++ source) = package ++ "/" ++ source := by
    apply String.toList_inj.mp
    simp [resolveSource]
  have hcancel : ∀ text, package ++ "/" ++ source = package ++ "/" ++ text ↔ source = text :=
    fun text => String.append_right_inj _
  refine ⟨fun options statement declared hdeclared =>
      options.source?_of_declaration statement declared hdeclared _, ?_, ?_⟩
  · intro htidy t
    have hempty : Path.LeadsDown "" := ⟨by decide, by decide⟩
    rw [moduleId_of_components package root _ "" source (root.components_join hfile) t, hresolved,
      ← (Path.intercalate_eq_iff hempty).mpr ⟨rfl, htidy⟩]
  · refine ⟨_, moduleId_of_components package root _ directory source ?_, ?_, ?_⟩
    · rw [Path.components_join _ hfile, root.components_join hdirectory, List.map_append,
        List.append_assoc]
    · rw [hresolved, hcancel]
      exact Path.intercalate_eq_iff hdirectory
    · exact fun options collected text hpath hambient =>
        options.generate_names_module hpath hambient

/-- A source in a directory of the module root, and the module next to it. -/
theorem source_names_module_below_root_nested :
    Path.LeadsDown "d" ∧ Path.LeadsDown "s" ∧
      resolveSource "p" "./s" = "p/s" ∧
      ∃ id, (moduleId "p" ⟨"."⟩ ((Path.join ⟨"."⟩ "d").join "s.js.json") :
          TreeAction ModuleError String).run {} = (.ok id, {}) ∧
        (resolveSource "p" "./s" = id ↔ "d" = "" ∧ Path.IsTidy "s") := by
  have hd : Path.LeadsDown "d" := ⟨by decide, by decide⟩
  have hs : Path.LeadsDown "s" := ⟨by decide, by decide⟩
  obtain ⟨-, -, id, hid, hiff, -⟩ := source_names_module_below_root "p" ⟨"."⟩ hd hs
  exact ⟨hd, hs, by decide, id, hid {}, hiff⟩

/-- Two files of one directory below the module root. The source in one of them that
leads to the other one is rewritten to the id of a module that stands elsewhere. -/
theorem source_misses_neighbour :
    ((moduleId "p" ⟨"."⟩ ⟨"./d/f.js.json"⟩ : TreeAction ModuleError String).run {}).1.toOption =
        some "p/d/f" ∧
      ((moduleId "p" ⟨"."⟩ ⟨"./d/s.js.json"⟩ : TreeAction ModuleError String).run {}).1.toOption =
        some "p/d/s" ∧
      (({} : Options).declaration "p" (.imports ⟨{}, [], { value := "./s" }⟩)).result =
        .ok (some ⟨[], .effectImport "p/s"⟩) :=
  ⟨by decide, by decide, by rfl⟩

end Ambient
