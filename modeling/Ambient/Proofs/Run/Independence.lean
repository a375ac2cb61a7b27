import Ambient.Proofs.Files.Ways
import Ambient.Proofs.Run.Outputs

namespace Ambient

/-!
# Inputs of a run are independent

What an input comes to is decided by the files that a run starts from, as long as no
document is written over an input: making a document changes nothing, and writing one
leaves the inputs as they are and the module root where it is.
-/

open FileTree (Extends Grows)

namespace FileTree

variable {t u : FileTree} {path : Path}

theorem read_of_locate {location : Location} {content : ByteArray}
    (h : t.locate path = .ok location) (hnode : t.node? location = some (.file content)) :
    t.read path = .ok content := by
  simp [read, nodeAt, h, hnode, bind, Except.bind, pure, Except.pure]

theorem canonical_of_locate {location : Location} (h : t.locate path = .ok location) :
    t.canonical path = .ok ⟨"/" ++ "/".intercalate location⟩ := by
  simp [canonical, h, bind, Except.bind, pure, Except.pure]

end FileTree

/-- Whether an error says that a document could not be written. -/
def ModuleError.isWriting : ModuleError → Bool
  | .directoryNotMade _ _ => true
  | .notWritten _ _ => true
  | _ => false

section

variable {root input : Path} {t u : FileTree}

theorem stepsFromRoot_congr (h : root.below? input = none →
      u.canonical root = t.canonical root ∧ u.canonical input = t.canonical input) :
    ((stepsFromRoot root input : TreeAction ModuleError (List Step)).run u).1 =
      ((stepsFromRoot root input : TreeAction ModuleError (List Step)).run t).1 := by
  unfold stepsFromRoot
  cases hbelow : root.below? input with
  | some steps => rfl
  | none =>
      obtain ⟨hroot, hinput⟩ := h hbelow
      simp only [TreeAction.run_bind, TreeAction.run_canonical, hroot]
      cases t.canonical root with
      | error e => rfl
      | ok resolvedRoot =>
          simp only [Except.mapError, hinput]
          cases t.canonical input with
          | error e => rfl
          | ok resolvedInput =>
              dsimp only
              cases resolvedRoot.below? resolvedInput <;> rfl

theorem readText_congr (h : u.read input = t.read input) :
    ((FileAccess.readText input : StateM FileTree (Except FileError String)) u).1 =
      ((FileAccess.readText input : StateM FileTree (Except FileError String)) t).1 := by
  have hread (v : FileTree) : (FileAccess.read input : StateM FileTree _) v = (v.read input, v) :=
    rfl
  unfold FileAccess.readText
  simp only [bind, StateT.bind, hread, h]
  cases t.read input with
  | error e => rfl
  | ok bytes =>
      dsimp only
      cases String.fromUTF8? bytes <;> rfl

end

namespace GeneratedModule

/-- What keeps a document from being saved is an error of writing. -/
theorem isWriting_of_save {module : GeneratedModule} {t u : FileTree} {e : ModuleError}
    (h : (module.save : TreeAction ModuleError Unit).run t = (.error e, u)) :
    e.isWriting = true := by
  rcases TreeAction.run_bind_eq_error h with hmade | ⟨_, mid, -, hwritten⟩
  · rw [TreeAction.run_attempt, Prod.mk.injEq] at hmade
    cases hdone : ((FileAccess.makeDirectories module.outputPath.parentSteps :
        StateM FileTree (Except FileError Unit)) t).1 with
    | ok done =>
        rw [hdone] at hmade
        cases hmade.1
    | error cause =>
        rw [hdone] at hmade
        cases hmade.1
        rfl
  · rw [TreeAction.run_write] at hwritten
    split at hwritten
    next => cases hwritten
    next =>
        cases hwritten
        rfl

end GeneratedModule

namespace Settings

variable {settings : Settings} {input : Path} {inputs : List Path} {t u v : FileTree}
  {module : GeneratedModule} {e : ModuleError}

/-- What an input comes to when nothing is written: its document, or why there is none. -/
def alone (settings : Settings) (tree : FileTree) (input : Path) :
    Except ModuleError GeneratedModule :=
  ((settings.generateModule input : TreeAction ModuleError GeneratedModule).run tree).1

theorem generateModule_eq_alone (settings : Settings) (input : Path) (t : FileTree) :
    (settings.generateModule input : TreeAction ModuleError GeneratedModule).run t =
      (settings.alone t input, t) :=
  Prod.ext rfl (generateModule_run rfl).1

theorem alone_congr
    (hsteps : ((stepsFromRoot settings.moduleRoot input : TreeAction ModuleError _).run u).1 =
      ((stepsFromRoot settings.moduleRoot input : TreeAction ModuleError _).run t).1)
    (hread : u.read input = t.read input) : settings.alone u input = settings.alone t input := by
  have hrun (w : FileTree) : (stepsFromRoot settings.moduleRoot input :
      TreeAction ModuleError (List Step)).run w =
        (((stepsFromRoot settings.moduleRoot input : TreeAction ModuleError _).run w).1, w) :=
    Prod.ext rfl (stepsFromRoot_run rfl).1
  unfold alone generateModule moduleId
  rw [TreeAction.run_bind, TreeAction.run_bind, TreeAction.run_bind, TreeAction.run_bind, hrun u,
    hrun t, hsteps]
  cases ((stepsFromRoot settings.moduleRoot input : TreeAction ModuleError _).run t).1 with
  | error e => rfl
  | ok steps =>
      have hid (w : FileTree) : (moduleId.liftExcept
          (moduleIdBelow settings.packageName input steps) : TreeAction ModuleError String).run w =
            (moduleIdBelow settings.packageName input steps, w) := rfl
      dsimp only
      rw [hid, hid]
      cases moduleIdBelow settings.packageName input steps with
      | error e => rfl
      | ok id =>
          dsimp only
          rw [TreeAction.run_bind, TreeAction.run_bind, TreeAction.run_attempt,
            TreeAction.run_attempt, readText_congr hread]
          cases ((FileAccess.readText input : StateM FileTree _) t).1 <;> rfl

theorem processInput_of_error (h : settings.alone t input = .error e) :
    (settings.processInput input : TreeAction ModuleError GeneratedModule).run t =
      (.error e, t) := by
  unfold processInput
  rw [TreeAction.run_bind, generateModule_eq_alone, h]

theorem processInput_dryRun (hdry : settings.dryRun = true) (t : FileTree) :
    (settings.processInput input : TreeAction ModuleError GeneratedModule).run t =
      (settings.alone t input, t) := by
  unfold processInput
  rw [TreeAction.run_bind, generateModule_eq_alone]
  cases settings.alone t input with
  | error e => rfl
  | ok module =>
      simp only [hdry, Bool.not_true, Bool.false_eq_true, if_false]
      rfl

theorem processInput_of_ok (hwrites : settings.dryRun = false)
    (h : settings.alone t input = .ok module) :
    (settings.processInput input : TreeAction ModuleError GeneratedModule).run t =
      match (module.save : TreeAction ModuleError Unit).run t with
      | (.ok (), u) => (.ok module, u)
      | (.error e, u) => (.error e, u) := by
  unfold processInput
  rw [TreeAction.run_bind, generateModule_eq_alone, h]
  simp only [hwrites, Bool.not_false, if_true]
  rw [TreeAction.run_bind]
  cases (module.save : TreeAction ModuleError Unit).run t with
  | mk saved after => cases saved <;> rfl

/-- Whether a path shows where it leads without a look at the files, or leads somewhere. -/
def IsFound (tree : FileTree) (root : Path) : Prop :=
  root.components = [] ∨ ∃ location, tree.locate root = .ok location

theorem exists_name_of_stepNames? {steps : List Step} {names : List String}
    (h : stepNames? steps = some names) (hne : names ≠ []) :
    ∃ step ∈ steps, step.component.isStep = true := by
  induction steps with
  | nil =>
      cases h
      exact absurd rfl hne
  | cons step steps ih =>
      obtain ⟨gap, component⟩ := step
      cases component with
      | root => simp [stepNames?] at h
      | up => simp [stepNames?] at h
      | here =>
          obtain ⟨found, hfound, hstep⟩ := ih (by simpa [stepNames?] using h)
          exact ⟨found, List.mem_cons_of_mem _ hfound, hstep⟩
      | name text => exact ⟨_, List.mem_cons_self, rfl⟩

/-- The module root of an input that has a document is there: the way to the input leads
through it. -/
theorem isFound_of_alone (hfile : t.isFile input = true)
    (h : settings.alone t input = .ok module) : IsFound t settings.moduleRoot := by
  obtain ⟨-, -, place, hplace, -⟩ :=
    (generateModule_run (settings.generateModule_eq_alone input t)).2 module h
  by_cases hcomponents : settings.moduleRoot.components = []
  · exact .inl hcomponents
  refine .inr ?_
  unfold modulePlaceOf? stepsFromRoot at hplace
  cases hbelow : settings.moduleRoot.below? input with
  | some steps =>
      rw [hbelow] at hplace
      have hsteps : modulePlace? steps = some place := hplace
      obtain ⟨names, hnames, hlast⟩ := Option.bind_eq_some_iff.mp hsteps
      have hne : names ≠ [] := by
        rintro rfl
        cases hlast
      exact FileTree.exists_locate_of_below hcomponents hbelow
        (exists_name_of_stepNames? hnames hne) (FileTree.locate_of_isFile hfile).1
  | none =>
      cases hlocate : t.locate settings.moduleRoot with
      | ok location => exact ⟨location, rfl⟩
      | error cause =>
          have hcanonical : t.canonical settings.moduleRoot = .error cause := by
            simp [FileTree.canonical, hlocate, bind, Except.bind]
          simp only [hbelow, TreeAction.run_bind, TreeAction.run_canonical, hcanonical,
            Except.mapError] at hplace
          cases hplace

/-- What a run has left of the tree that it started from: the inputs, and what was there,
as far as it has not written over it. Something may have been added only if the module
root was there. -/
structure Intact (settings : Settings) (inputs : List Path) (t u : FileTree) : Prop where
  grows : Grows t u
  kept : ∀ input ∈ inputs, ∀ node, t.node? (t.destination input) = some node →
    u.node? (t.destination input) = some node
  found : u = t ∨ IsFound t settings.moduleRoot

theorem Intact.refl (settings : Settings) (inputs : List Path) (t : FileTree) :
    settings.Intact inputs t t :=
  ⟨(Extends.refl t).grows, fun _ _ _ h => h, .inl rfl⟩

/-- An input comes to the same at any time in a run. -/
theorem Intact.alone_eq (h : settings.Intact inputs t u) (hmem : input ∈ inputs)
    (hfile : t.isFile input = true) : settings.alone u input = settings.alone t input := by
  obtain ⟨hlocate, content, hnode⟩ := FileTree.locate_of_isFile hfile
  have hlocate' := h.grows.locate hlocate
  have hnode' := h.kept input hmem _ hnode
  -- A module root that was not there could be found later, but then nothing is added.
  refine alone_congr (stepsFromRoot_congr fun hbelow => ⟨?_, ?_⟩) ?_
  · rcases h.found with rfl | hempty | ⟨location, hroot⟩
    · rfl
    · rw [Path.below?, hempty, Path.stepsBelow?_nil] at hbelow
      cases hbelow
    · rw [FileTree.canonical_of_locate hroot,
        FileTree.canonical_of_locate (h.grows.locate hroot)]
  · rw [FileTree.canonical_of_locate hlocate, FileTree.canonical_of_locate hlocate']
  · rw [FileTree.read_of_locate hlocate hnode, FileTree.read_of_locate hlocate' hnode']

theorem Intact.extends_ (h : settings.Intact inputs t u) (hextends : Extends u v)
    (hfound : IsFound t settings.moduleRoot) : settings.Intact inputs t v where
  grows := h.grows.trans hextends.grows
  kept other hother node hnode := hextends.kept _ _ (h.kept other hother node hnode)
  found := .inr hfound

theorem Intact.write (h : settings.Intact inputs t u) {path : Path} {text : String}
    (hwrite : u.write path text = .ok v) (hfound : IsFound t settings.moduleRoot)
    (hapart : ∀ input ∈ inputs, t.destination path ≠ t.destination input) :
    settings.Intact inputs t v := by
  obtain ⟨hgrows, -, hkept⟩ := FileTree.write_eq_ok hwrite
  refine ⟨h.grows.trans hgrows, fun other hother node hnode => ?_, .inr hfound⟩
  rw [h.grows.destination path] at hkept
  rw [hkept _ (hapart other hother).symm]
  exact h.kept other hother node hnode

/-- An input fails as it does alone, or its document has been made but not written. -/
def FailsWith (settings : Settings) (t : FileTree) (input : Path) (e : ModuleError) : Prop :=
  settings.alone t input = .error e ∨
    settings.dryRun = false ∧ e.isWriting = true ∧ ∃ module, settings.alone t input = .ok module

/-- What an input comes to at its turn in a run. -/
def ComesTo (settings : Settings) (t : FileTree) (input : Path) :
    Except ModuleError GeneratedModule → Prop
  | .ok module => settings.alone t input = .ok module
  | .error e => settings.FailsWith t input e

/-- Processing an input leaves the inputs intact, and the input comes to what it comes to
in the tree that the run started from. -/
theorem Intact.processInput (h : settings.Intact inputs t u) (hmem : input ∈ inputs)
    (hfile : t.isFile input = true) {result : Except ModuleError GeneratedModule}
    (hrun : (settings.processInput input : TreeAction ModuleError GeneratedModule).run u =
      (result, v))
    (hapart : ∀ module, result = .ok module → ∀ other ∈ inputs,
      t.destination module.outputPath ≠ t.destination other) :
    settings.ComesTo t input result ∧ settings.Intact inputs t v := by
  have hsame := h.alone_eq hmem hfile
  cases halone : settings.alone t input with
  | error e =>
      rw [processInput_of_error (hsame.trans halone)] at hrun
      cases hrun
      exact ⟨.inl halone, h⟩
  | ok module =>
      -- From here on something may be added, so the module root has to be there by now.
      have hfound := isFound_of_alone hfile halone
      by_cases hdry : settings.dryRun = true
      · rw [processInput_dryRun hdry, hsame, halone] at hrun
        cases hrun
        exact ⟨halone, h⟩
      · have hwrites : settings.dryRun = false := by simpa using hdry
        rw [processInput_of_ok hwrites (hsame.trans halone)] at hrun
        split at hrun
        next w hsaved =>
            cases hrun
            obtain ⟨mid, hextends, hwrite⟩ := GeneratedModule.save_eq_ok hsaved
            exact ⟨halone, (h.extends_ hextends hfound).write hwrite hfound (hapart module rfl)⟩
        next e w hsaved =>
            cases hrun
            exact ⟨.inr ⟨hwrites, GeneratedModule.isWriting_of_save hsaved, module, halone⟩,
              h.extends_ (GeneratedModule.save_eq_error hsaved) hfound⟩

/-- How inputs come to the documents and the failures of a report: each input comes to
one of them, and both lists are in the order of the inputs. -/
inductive Lands (settings : Settings) (t : FileTree) :
    List Path → List GeneratedModule → List ModuleFailure → Prop
  | nil : Lands settings t [] [] []
  | generated {input : Path} {inputs : List Path} {module : GeneratedModule}
      {modules : List GeneratedModule} {failures : List ModuleFailure}
      (input_eq : module.input = input) (outcome : settings.alone t input = .ok module)
      (others : Lands settings t inputs modules failures) :
      Lands settings t (input :: inputs) (module :: modules) failures
  | failed {input : Path} {inputs : List Path} {e : ModuleError}
      {modules : List GeneratedModule} {failures : List ModuleFailure}
      (outcome : settings.FailsWith t input e)
      (others : Lands settings t inputs modules failures) :
      Lands settings t (input :: inputs) modules (⟨input, e⟩ :: failures)

theorem outcomesOf_append (before after : List Path) (t : FileTree) :
    settings.outcomesOf (before ++ after) t =
      ((settings.outcomesOf before t).1 ++
          (settings.outcomesOf after (settings.outcomesOf before t).2).1,
        (settings.outcomesOf after (settings.outcomesOf before t).2).2) := by
  induction before generalizing t with
  | nil => rfl
  | cons input before ih =>
      simp only [List.cons_append, outcomesOf_cons, ih]
      rfl

/-- Over a run of some of the inputs each input comes to what it comes to in the tree that
the run started from. -/
theorem Intact.outcomesOf {turns : List Path}
    {outcomes : List (Path × Except ModuleError GeneratedModule)}
    (h : settings.Intact inputs t u) (hsub : ∀ input ∈ turns, input ∈ inputs)
    (hfiles : ∀ input ∈ inputs, t.isFile input = true)
    (hrun : settings.outcomesOf turns u = (outcomes, v))
    (hapart : ∀ module ∈ writtenOf outcomes, ∀ input ∈ inputs,
      t.destination module.outputPath ≠ t.destination input) :
    settings.Lands t turns (Report.ofOutcomes outcomes).generated
        (Report.ofOutcomes outcomes).failures ∧
      settings.Intact inputs t v := by
  -- Induction on the inputs that are left; the tree each one meets is intact.
  induction turns generalizing u outcomes with
  | nil =>
      cases hrun
      exact ⟨.nil, h⟩
  | cons input others ih =>
      rw [outcomesOf_cons] at hrun
      cases hfirst : (settings.processInput input : TreeAction _ _).run u with
      | mk result mid =>
          cases hothers : settings.outcomesOf others mid with
          | mk rest after =>
              simp only [hfirst, hothers] at hrun
              cases hrun
              have hmem := hsub input List.mem_cons_self
              have hsubOthers := fun other hother => hsub other (List.mem_cons_of_mem input hother)
              cases result with
              | error e =>
                  obtain ⟨hcomes, hmid⟩ := h.processInput hmem (hfiles input hmem) hfirst
                    (fun module hmodule => by cases hmodule)
                  obtain ⟨hlands, hafter⟩ := ih hmid hsubOthers hothers hapart
                  exact ⟨.failed hcomes hlands, hafter⟩
              | ok module =>
                  simp only [writtenOf_ok, List.mem_cons, forall_eq_or_imp] at hapart
                  obtain ⟨hcomes, hmid⟩ := h.processInput hmem (hfiles input hmem) hfirst
                    (fun made hmade => by cases hmade; exact hapart.1)
                  obtain ⟨hlands, hafter⟩ := ih hmid hsubOthers hothers hapart.2
                  have hinput := ((generateModule_run
                    (settings.generateModule_eq_alone input t)).2 module hcomes).1
                  exact ⟨.generated hinput hcomes hlands, hafter⟩

theorem run_eq_outcomesOf (settings : Settings) (inputs : List Path) (t : FileTree) :
    (settings.run inputs : StateM FileTree Report) t =
      (.ofOutcomes (settings.outcomesOf inputs t).1, (settings.outcomesOf inputs t).2) := rfl

/-- Without writing, each input comes to its document or its error alone. -/
theorem outcomesOf_dryRun (hdry : settings.dryRun = true) (inputs : List Path) (t : FileTree) :
    settings.outcomesOf inputs t =
      (inputs.map fun input => (input, settings.alone t input), t) := by
  induction inputs with
  | nil => rfl
  | cons input inputs ih =>
      rw [outcomesOf_cons, processInput_dryRun hdry]
      simp only [ih, List.map_cons]

/-- If all documents are written, the report says of each input what it comes to alone. -/
theorem Lands.ofOutcomes_alone {modules : List GeneratedModule} {failures : List ModuleFailure}
    (h : settings.Lands t inputs modules failures)
    (hwritten : ∀ failure ∈ failures, failure.error.isWriting = false) :
    Report.ofOutcomes (inputs.map fun input => (input, settings.alone t input)) =
      ⟨modules, failures⟩ := by
  induction h with
  | nil => rfl
  | generated hinput houtcome others ih =>
      have hrest := ih hwritten
      simp only [Report.ofOutcomes, Report.mk.injEq] at hrest ⊢
      simpa [houtcome, Except.toOption] using hrest
  | failed houtcome others ih =>
      have hrest := ih fun failure hfailure => hwritten failure (List.mem_cons_of_mem _ hfailure)
      rcases houtcome with halone | ⟨-, hwriting, -⟩
      · simp only [Report.ofOutcomes, Report.mk.injEq] at hrest ⊢
        simpa [halone, Except.toOption] using hrest
      · rw [hwritten _ List.mem_cons_self] at hwriting
        cases hwriting

/-- If the inputs of a run are files and no document that it makes is written to one of
them, each input comes to a document or to a failure, in the order of the inputs, and to
the one that it comes to alone, as long as its document can be written. An input that has
no document alone leaves all files as they are, and so do all inputs if nothing is to be
written. The report is the same then, unless the other run fails to write. -/
theorem run_independent {report : Report}
    (hrun : (settings.run inputs : StateM FileTree Report) t = (report, u))
    (hfiles : ∀ input ∈ inputs, t.isFile input = true)
    (hapart : ∀ module ∈ report.generated, ∀ input ∈ inputs,
      t.destination module.outputPath ≠ t.destination input) :
    settings.Lands t inputs report.generated report.failures ∧
    (∀ before input after e, inputs = before ++ input :: after →
      settings.alone t input = .error e →
      ((settings.run (before ++ [input]) : StateM FileTree Report) t).2 =
        ((settings.run before : StateM FileTree Report) t).2) ∧
    (({ settings with dryRun := true }.run inputs : StateM FileTree Report) t).2 = t ∧
    ((∀ failure ∈ report.failures, failure.error.isWriting = false) →
      (({ settings with dryRun := true }.run inputs : StateM FileTree Report) t).1 = report) := by
  rw [run_eq_outcomesOf, Prod.mk.injEq] at hrun
  obtain ⟨rfl, rfl⟩ := hrun
  have hintact := Intact.refl settings inputs t
  have hlands := (hintact.outcomesOf (fun _ h => h) hfiles rfl hapart).1
  have hdry := @outcomesOf_dryRun { settings with dryRun := true } rfl inputs t
  refine ⟨hlands, ?_, ?_, fun hwritten => ?_⟩
  · intro before input after e hsplit halone
    have hmem : input ∈ inputs := by simp [hsplit]
    -- The run of the inputs before this one is the beginning of the whole run.
    have hbefore : settings.Intact inputs t (settings.outcomesOf before t).2 := by
      refine (hintact.outcomesOf (fun other hother => ?_) hfiles rfl ?_).2
      · rw [hsplit]
        exact List.mem_append_left _ hother
      · intro module hmodule
        refine hapart module ?_
        rw [hsplit, outcomesOf_append]
        change module ∈ writtenOf (_ ++ _)
        rw [writtenOf, List.filterMap_append]
        exact List.mem_append_left _ hmodule
    rw [run_eq_outcomesOf, run_eq_outcomesOf, outcomesOf_append]
    have hsame := (hbefore.alone_eq hmem (hfiles input hmem)).trans halone
    rw [outcomesOf_cons, processInput_of_error hsame]
    rfl
  · rw [run_eq_outcomesOf, hdry]
  · rw [run_eq_outcomesOf, hdry]
    exact hlands.ofOutcomes_alone hwritten

/-- Three files; the second one is not a program. -/
def mixedFiles : FileTree where
  nodes := [
    (["a.json"], .file (programText "").toUTF8),
    (["b.json"], .file "[".toUTF8),
    (["d"], .directory),
    (["d", "c.json"], .file (programText "").toUTF8)]

def mixedInputs : List Path := [⟨"a.json"⟩, ⟨"b.json"⟩, ⟨"d/c.json"⟩]

def mixedRun : Report × FileTree :=
  (sampleSettings.run mixedInputs : StateM FileTree Report) mixedFiles

def mixedDocuments : List GeneratedModule := [
  ⟨⟨"a.json"⟩, "p/a", ⟨"out/p/a.d.ts"⟩, "declare module 'p/a' \x7b\n\x7d\n"⟩,
  ⟨⟨"d/c.json"⟩, "p/d/c", ⟨"out/p/d/c.d.ts"⟩, "declare module 'p/d/c' \x7b\n\x7d\n"⟩]

theorem run_independent_mixedRun :
    (∀ input ∈ mixedInputs, mixedFiles.isFile input = true) ∧
      mixedRun.1.generated = mixedDocuments ∧
      sampleSettings.Lands mixedFiles mixedInputs mixedDocuments mixedRun.1.failures ∧
      (({ sampleSettings with dryRun := true }.run mixedInputs : StateM FileTree Report)
        mixedFiles).1 = mixedRun.1 := by
  have hrun : (sampleSettings.run mixedInputs : StateM FileTree Report) mixedFiles =
      (mixedRun.1, mixedRun.2) := (Prod.eta mixedRun).symm
  have hfiles : ∀ input ∈ mixedInputs, mixedFiles.isFile input = true := by decide +kernel
  have hgenerated : mixedRun.1.generated = mixedDocuments := by decide +kernel
  have hwritten : ∀ failure ∈ mixedRun.1.failures, failure.error.isWriting = false := by
    decide +kernel
  have hapart : ∀ module ∈ mixedRun.1.generated, ∀ input ∈ mixedInputs,
      mixedFiles.destination module.outputPath ≠ mixedFiles.destination input := by
    rw [hgenerated]
    decide +kernel
  obtain ⟨hlands, -, -, hsame⟩ := run_independent hrun hfiles hapart
  rw [hgenerated] at hlands
  exact ⟨hfiles, hgenerated, hlands, hsame hwritten⟩

end Settings

end Ambient
