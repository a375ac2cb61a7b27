import Ambient.Proofs.Files.Ways
import Ambient.Proofs.Run.Sources

namespace Ambient

/-!
# Module ids mirror paths

The id of a module is its package and the names on the way from the module root to its
file. Its document stands on the same way below the directory for documents, whatever
these names are.
-/

/-- What a text is without an ending. A text that does not have the ending is left as
it is. -/
def IsWithout (ending text rest : String) : Prop :=
  text = rest ++ ending ∨ rest = text ∧ ∀ front, text ≠ front ++ ending

theorem isWithout_iff {ending text rest : String} :
    IsWithout ending text rest ↔ rest = withoutEnding ending text := by
  by_cases hending : ∃ front, text = front ++ ending
  · obtain ⟨front, rfl⟩ := hending
    rw [withoutEnding_append]
    constructor
    · rintro (hsame | ⟨-, hnone⟩)
      · exact ((String.append_left_inj _).mp hsame).symm
      · exact absurd rfl (hnone front)
    · rintro rfl
      exact .inl rfl
  · have hnone : ∀ front, text ≠ front ++ ending := fun front h => hending ⟨front, h⟩
    have hkept : withoutEnding ending text = text := by
      rw [withoutEnding, if_neg]
      intro hsuffix
      obtain ⟨front, hfront⟩ := List.isSuffixOf_iff_suffix.mp hsuffix
      apply hnone (String.ofList front)
      apply String.toList_inj.mp
      simp [hfront]
    rw [hkept]
    exact ⟨fun h => h.elim (fun hsame => absurd hsame (hnone rest)) And.left,
      fun h => .inr ⟨h, hnone⟩⟩

/-- A file name without one `.json` at its end, and then without one `.js`. -/
def IsStem (fileName stem : String) : Prop :=
  ∃ base, IsWithout ".json" fileName base ∧ IsWithout ".js" base stem

theorem isStem_iff {fileName stem : String} :
    IsStem fileName stem ↔ stem = moduleStem fileName := by
  simp only [IsStem, isWithout_iff, exists_eq_left, moduleStem]

theorem stepNames?_eq_none {steps : List Step} (h : .up ∈ steps.map Step.component) :
    stepNames? steps = none := by
  induction steps with
  | nil => simp at h
  | cons step steps ih =>
      obtain ⟨gap, component⟩ := step
      cases component with
      | root => rfl
      | up => rfl
      | here => exact ih (by simpa using h)
      | name text => simp [stepNames?, ih (by simpa using h)]

theorem exists_names_of_isStep {components : List Component}
    (hstep : ∀ component ∈ components, component.isStep = true) (hup : .up ∉ components) :
    ∃ names : List String, components = names.map .name := by
  induction components with
  | nil => exact ⟨[], rfl⟩
  | cons component components ih =>
      obtain ⟨hfirst, hrest⟩ := List.forall_mem_cons.mp hstep
      rw [List.mem_cons, not_or] at hup
      obtain ⟨names, hnames⟩ := ih hrest hup.2
      cases component with
      | root => cases hfirst
      | here => cases hfirst
      | up => exact absurd rfl hup.1
      | name text => exact ⟨text :: names, by rw [hnames, List.map_cons]⟩

theorem moduleId_of_below {m : Type → Type} [Monad m] [LawfulMonad m] [FileAccess m]
    {root input : Path} {steps : List Step} (package : String)
    (h : root.below? input = some steps) :
    (moduleId package root input : ExceptT ModuleError m String) =
      ExceptT.mk (pure (moduleIdBelow package input steps)) := by
  rw [moduleId, stepsFromRoot, h, pure_bind]
  rfl

theorem modulePlace?_of_names {steps : List Step} {directories : List String} {fileName : String}
    (h : steps.map Step.component = (directories ++ [fileName]).map .name) :
    modulePlace? steps = some ⟨directories, moduleStem fileName⟩ := by
  simp [modulePlace?, stepNames?_of_names h]

/-- The file of a document is named after its package and the place of its module. -/
theorem ModulePlace.components_document {package : String} {packageNames : List String}
    (hpackage : package ≠ "") (hnames : (Path.mk package).components = packageNames.map .name)
    {place : ModulePlace} (hproper : place.IsProper) :
    (Path.mk (place.id package ++ ".d.ts")).components =
      (packageNames ++ place.outputNames).map .name := by
  have htext : place.id package ++ ".d.ts" =
      package ++ "/" ++ "/".intercalate place.outputNames := by
    rw [← place.intercalate_outputNames, ModulePlace.id, String.append_assoc]
  have hslash : ∀ name ∈ place.outputNames, '/' ∉ name.toList :=
    fun name hname => (hproper.outputNames name hname).noSlash
  rw [htext, Path.components_append_slash, Path.components_slash hpackage, hnames,
    Path.pieces_intercalate place.outputNames_ne_nil hslash,
    Component.filterMap_ofPiece? hproper.outputNames, List.map_append]

/-- The id of a module in a file below the root mirrors the way to the file, and there is
none if the way is empty or leads up. The document stands below the directory for
documents, on the way that the package and the id say. -/
theorem moduleId_mirrors_path {m : Type → Type} [Monad m] [LawfulMonad m] [FileAccess m]
    {package : String} {packageNames : List String} {root input : Path} {below : List Component}
    (hpackage : package ≠ "") (hnames : (Path.mk package).components = packageNames.map .name)
    (hroot : root.text ≠ "") (hinput : input.components = root.components ++ below) :
    (below = [] → (moduleId package root input : ExceptT ModuleError m String) =
      throw (.noFileName input)) ∧
    (.up ∈ below → ∃ relative, (moduleId package root input : ExceptT ModuleError m String) =
      throw (.unexpectedComponent relative)) ∧
    (below ≠ [] → .up ∉ below → ∃ directories fileName stem,
      below = (directories ++ [fileName]).map .name ∧ IsStem fileName stem ∧
      ∃ id, id = package ++ "/" ++ "/".intercalate (directories ++ [stem]) ∧
        (moduleId package root input : ExceptT ModuleError m String) = pure id ∧
        ∀ typings : Path,
          (outputPath typings id).components = typings.components ++
            (packageNames ++ directories ++ [stem ++ ".d.ts"]).map .name ∧
          (typings.text ≠ "" → ∀ tree : FileTree, tree.destination (outputPath typings id) =
            tree.destination typings ++ (packageNames ++ directories ++ [stem ++ ".d.ts"]))) := by
  have hcomponents : root.components ≠ [] := by
    rwa [ne_eq, Path.components_eq_nil_iff]
  have hsplit : input.steps.map Step.component = root.components ++ below := hinput
  obtain ⟨steps, hbelow, hsteps⟩ := Path.exists_stepsBelow? hsplit
  rw [moduleId_of_below package hbelow]
  refine ⟨fun hnone => ?_, fun hup => ?_, fun hsome hup => ?_⟩
  · rw [hnone, List.map_eq_nil_iff] at hsteps
    rw [hsteps]
    rfl
  · refine ⟨Path.ofSteps steps, ?_⟩
    rw [moduleIdBelow, stepNames?_eq_none (hsteps ▸ hup)]
    rfl
  · obtain ⟨names, rfl⟩ :=
      exists_names_of_isStep (Path.isStep_of_mem_below hcomponents hinput) hup
    have hne : names ≠ [] := fun hnil => hsome (by rw [hnil, List.map_nil])
    obtain ⟨directories, fileName, rfl⟩ := (List.eq_nil_or_concat' names).resolve_left hne
    obtain ⟨stem, hstem⟩ : ∃ stem, stem = moduleStem fileName := ⟨_, rfl⟩
    have hplace : modulePlace? steps = some ⟨directories, stem⟩ :=
      hstem ▸ modulePlace?_of_names hsteps
    have hproper : ModulePlace.IsProper ⟨directories, stem⟩ :=
      ModulePlace.isProper_of_steps (fun step hstep _ =>
        Path.isProperName_of_mem_steps (Path.mem_of_stepsBelow? hbelow step hstep)) hplace
    have hid := (moduleIdBelow_eq_ok_iff package input steps _).mpr ⟨_, hplace, rfl⟩
    refine ⟨directories, fileName, stem, rfl, isStem_iff.mpr hstem, _, rfl, ?_, ?_⟩
    · exact congrArg (fun result => ExceptT.mk (pure result)) hid
    · intro typings
      have hdocument := ModulePlace.components_document hpackage hnames hproper
      have hjoined := typings.components_join_of_names hdocument
      rw [ModulePlace.outputNames, ← List.append_assoc] at hjoined
      exact ⟨hjoined, fun htypings tree => tree.destination_of_names htypings hjoined⟩

/-- A file whose stem is `..` stands below a directory that is spelled in another way. -/
theorem moduleId_mirrors_path_dots :
    "@scope//pkg" ≠ "" ∧
      (Path.mk "@scope//pkg").components = ["@scope", "pkg"].map .name ∧
      (Path.mk "./src//").text ≠ "" ∧
      (Path.mk "./src/./lib//...json").components =
        (Path.mk "./src//").components ++ [.name "lib", .name "...json"] ∧
      (moduleId "@scope//pkg" ⟨"./src//"⟩ ⟨"./src/./lib//...json"⟩ :
        TreeAction ModuleError String) = pure "@scope//pkg/lib/.." ∧
      (outputPath ⟨"out"⟩ "@scope//pkg/lib/..").components =
        [.name "out", .name "@scope", .name "pkg", .name "lib", .name "...d.ts"] := by
  have hpackage : (Path.mk "@scope//pkg").components = ["@scope", "pkg"].map .name := by decide
  have hinput : (Path.mk "./src/./lib//...json").components =
      (Path.mk "./src//").components ++ [.name "lib", .name "...json"] := by decide
  obtain ⟨-, -, hmirrors⟩ := @moduleId_mirrors_path (StateM FileTree) _ _ _ _ _ ⟨"./src//"⟩ _ _
    (by decide) hpackage (by decide) hinput
  obtain ⟨directories, fileName, stem, hbelow, hstem, id, hsame, hid, houtput⟩ :=
    hmirrors (by decide) (by decide)
  have hnames : ["lib"] ++ ["...json"] = directories ++ [fileName] :=
    (List.map_inj_right fun _ _ => Component.name.inj).mp hbelow
  obtain ⟨rfl, hfile⟩ := List.append_inj' hnames rfl
  cases hfile
  rw [isStem_iff] at hstem
  have hstem : stem = ".." := hstem.trans (by decide)
  subst hstem
  obtain rfl : id = "@scope//pkg/lib/.." := hsame.trans (by decide)
  have hout : (Path.mk "out").components = [.name "out"] := by decide
  refine ⟨by decide, hpackage, by decide, hinput, hid, ?_⟩
  rw [(houtput ⟨"out"⟩).1, hout]
  rfl

end Ambient
