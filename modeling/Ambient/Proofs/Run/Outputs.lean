import Ambient.Proofs.Files.Growth
import Ambient.Proofs.Files.Order
import Ambient.Proofs.Run.Places
import Ambient.Run.Report

namespace Ambient

/-!
# What a run leaves in its files

Over a tree of files, a run writes the documents one after the other. A document is
lost if one that is written later has the same path, and only then.
-/

open FileTree (Extends Stores Growing)

/-- An action over a tree of files that may fail. -/
abbrev TreeAction (ε α : Type) := ExceptT ε (StateM FileTree) α

namespace TreeAction

variable {ε α β : Type}

theorem run_bind {σ : Type} (x : ExceptT ε (StateM σ) α) (f : α → ExceptT ε (StateM σ) β)
    (t : σ) : (x >>= f).run t = match x.run t with
      | (.ok a, mid) => (f a).run mid
      | (.error e, mid) => (.error e, mid) := by
  change (match x.run t with | (result, mid) => ExceptT.bindCont f result mid) = _
  cases x.run t with
  | mk result mid => cases result <;> rfl

theorem run_bind_eq_ok {x : TreeAction ε α} {f : α → TreeAction ε β} {t u : FileTree} {b : β}
    (h : (x >>= f).run t = (.ok b, u)) :
    ∃ a mid, x.run t = (.ok a, mid) ∧ (f a).run mid = (.ok b, u) := by
  rw [run_bind] at h
  split at h
  next a mid hx => exact ⟨a, mid, hx, h⟩
  next e mid hx => cases h

theorem run_bind_eq_error {x : TreeAction ε α} {f : α → TreeAction ε β} {t u : FileTree} {e : ε}
    (h : (x >>= f).run t = (.error e, u)) :
    x.run t = (.error e, u) ∨ ∃ a mid, x.run t = (.ok a, mid) ∧ (f a).run mid = (.error e, u) := by
  rw [run_bind] at h
  split at h
  next a mid hx => exact .inr ⟨a, mid, hx, h⟩
  next e' mid hx =>
      cases h
      exact .inl hx

theorem run_lift {σ : Type} (x : StateM σ α) (t : σ) :
    (liftM x : ExceptT ε (StateM σ) α).run t = (.ok (x t).1, (x t).2) := rfl

theorem run_attempt {σ : Type} (operation : StateM σ (Except FileError α))
    (failure : FileError → ε) (t : σ) : (FileAccess.attempt operation failure).run t =
      ((operation t).1.mapError failure, (operation t).2) := rfl

theorem run_canonical (path : Path) (failure : FileError → ε) (t : FileTree) :
    (FileAccess.attempt (FileAccess.canonical path : StateM FileTree _) failure).run t =
      ((t.canonical path).mapError failure, t) := rfl

theorem run_write (path : Path) (text : String) (failure : FileError → ε) (t : FileTree) :
    (FileAccess.attempt (FileAccess.write path text : StateM FileTree _) failure).run t =
      match t.write path text with
      | .ok u => (.ok (), u)
      | .error e => (.error (failure e), t) := by
  change ((FileTree.update (·.write path text) t).1.mapError _,
    (FileTree.update (·.write path text) t).2) = _
  unfold FileTree.update
  dsimp only
  cases t.write path text <;> rfl

end TreeAction

/-- The files of the inputs are found as they are listed where they are listed in order. -/
theorem discover_of_pairwise {σ : Type} [FileAccess (StateM σ)] {inputs : List Path} {s t : σ}
    (lists : List (List Path))
    (hlists : (inputs.mapM filesOf : ExceptT SetupError (StateM σ) (List (List Path))).run s =
      (.ok lists, t)) (hordered : lists.flatten.Pairwise Path.Before) :
    ((discover inputs : ExceptT SetupError (StateM σ) (List Path)).run s).1 =
      .ok lists.flatten := by
  unfold discover
  simp only [TreeAction.run_bind, hlists]
  exact congrArg Except.ok (inputOrder_of_pairwise hordered)

section

variable {root input : Path} {package : String} {t u : FileTree}

/-- The way to a file is found without a change, and its steps are those of a path. -/
theorem stepsFromRoot_run {result : Except ModuleError (List Step)}
    (h : (stepsFromRoot root input : TreeAction ModuleError (List Step)).run t = (result, u)) :
    u = t ∧ ∀ steps, result = .ok steps → ∃ path : Path, ∀ step ∈ steps, step ∈ path.steps := by
  unfold stepsFromRoot at h
  cases hbelow : root.below? input with
  | some steps =>
      simp only [hbelow] at h
      cases h
      refine ⟨rfl, fun found hfound => ⟨input, ?_⟩⟩
      cases hfound
      exact Path.mem_of_stepsBelow? hbelow
  | none =>
      simp only [hbelow, TreeAction.run_bind, TreeAction.run_canonical] at h
      cases hroot : t.canonical root with
      | error e =>
          rw [hroot] at h
          cases h
          exact ⟨rfl, fun steps hsteps => by cases hsteps⟩
      | ok resolvedRoot =>
          cases hinput : t.canonical input with
          | error e =>
              simp only [hroot, hinput, Except.mapError] at h
              cases h
              exact ⟨rfl, fun steps hsteps => by cases hsteps⟩
          | ok resolvedInput =>
              simp only [hroot, hinput, Except.mapError] at h
              cases hresolved : resolvedRoot.below? resolvedInput with
              | none =>
                  simp only [hresolved] at h
                  cases h
                  exact ⟨rfl, fun steps hsteps => by cases hsteps⟩
              | some steps =>
                  simp only [hresolved] at h
                  cases h
                  refine ⟨rfl, fun found hfound => ⟨resolvedInput, ?_⟩⟩
                  cases hfound
                  exact Path.mem_of_stepsBelow? hresolved

/-- The place of the module in a file, if the way to the file says one. -/
def modulePlaceOf? (root input : Path) (tree : FileTree) : Option ModulePlace :=
  match ((stepsFromRoot root input : TreeAction ModuleError (List Step)).run tree).1 with
  | .ok steps => modulePlace? steps
  | .error _ => none

/-- The id of a module is found without a change, and it tells the place of the module. -/
theorem moduleId_run {result : Except ModuleError String}
    (h : (moduleId package root input : TreeAction ModuleError String).run t = (result, u)) :
    u = t ∧ ∀ id, result = .ok id → ∃ place, modulePlaceOf? root input t = some place ∧
      place.IsProper ∧ id = place.id package := by
  unfold moduleId at h
  rw [TreeAction.run_bind] at h
  split at h
  next steps mid hsteps =>
      obtain ⟨hmid, hpath⟩ := stepsFromRoot_run hsteps
      obtain ⟨path, hpath⟩ := hpath steps rfl
      have hresult : (moduleIdBelow package input steps, mid) = (result, u) := h
      rw [Prod.mk.injEq] at hresult
      refine ⟨hresult.2.symm.trans hmid, fun id hid => ?_⟩
      rw [hid] at hresult
      obtain ⟨place, hplace, hid⟩ := (moduleIdBelow_eq_ok_iff package input steps id).mp hresult.1
      have hproper : place.IsProper :=
        ModulePlace.isProper_of_steps
          (fun step hstep _ => Path.isProperName_of_mem_steps (hpath step hstep)) hplace
      exact ⟨place, by simpa [modulePlaceOf?, hsteps] using hplace, hproper, hid⟩
  next e mid hsteps =>
      obtain ⟨hmid, -⟩ := stepsFromRoot_run hsteps
      cases h
      exact ⟨hmid, fun id hid => by cases hid⟩

theorem exists_place_of_moduleId {id : String}
    (h : ((moduleId package root input : TreeAction ModuleError String).run t).1 = .ok id) :
    ∃ place, modulePlaceOf? root input t = some place ∧ place.IsProper ∧ id = place.id package :=
  (moduleId_run (Prod.ext h rfl)).2 id rfl

end

section

variable {settings : Settings} {input : Path} {module : GeneratedModule} {t u : FileTree}

theorem readText_snd (path : Path) (t : FileTree) :
    ((FileAccess.readText path : StateM FileTree (Except FileError String)) t).2 = t := by
  have hread : (FileAccess.read path : StateM FileTree (Except FileError ByteArray)) t =
      (t.read path, t) := rfl
  unfold FileAccess.readText
  simp only [bind, StateT.bind, hread]
  cases t.read path with
  | error e => rfl
  | ok bytes =>
      dsimp only
      cases String.fromUTF8? bytes <;> rfl

theorem Settings.document_eq_ok {id source : String}
    (h : settings.document input id source = .ok module) :
    module.input = input ∧ module.moduleId = id ∧
      module.outputPath = outputPath settings.typings id := by
  unfold document at h
  cases hprogram : Program.parse source with
  | error e => simp [hprogram, Except.mapError, bind, Except.bind] at h
  | ok program =>
      cases htext : (settings.options.generate settings.packageName id program.collect).result with
      | error e => simp [hprogram, htext, Except.mapError, bind, Except.bind] at h
      | ok text =>
          have hmodule : ⟨input, id, outputPath settings.typings id, text⟩ = module := by
            simpa [hprogram, htext, Except.mapError, bind, Except.bind, pure, Except.pure] using h
          rw [← hmodule]
          exact ⟨rfl, rfl, rfl⟩

/-- A document is made without a change. -/
theorem Settings.generateModule_run {result : Except ModuleError GeneratedModule}
    (h : (settings.generateModule input : TreeAction ModuleError GeneratedModule).run t =
      (result, u)) :
    u = t ∧ ∀ module, result = .ok module → module.input = input ∧
      module.outputPath = outputPath settings.typings module.moduleId ∧
      ∃ place, modulePlaceOf? settings.moduleRoot input t = some place ∧ place.IsProper ∧
        module.moduleId = place.id settings.packageName := by
  unfold generateModule at h
  rw [TreeAction.run_bind] at h
  split at h
  next id mid hid =>
      obtain ⟨hmid, hplace⟩ := moduleId_run hid
      obtain ⟨place, hplace, hproper, hid'⟩ := hplace id rfl
      rw [TreeAction.run_bind, TreeAction.run_attempt] at h
      have hread := readText_snd input mid
      split at h
      next source after hsource =>
          rw [Prod.mk.injEq, hread] at hsource
          have hresult : (settings.document input id source, after) = (result, u) := h
          rw [Prod.mk.injEq] at hresult
          refine ⟨by rw [← hresult.2, ← hsource.2, hmid], fun module hmodule => ?_⟩
          rw [hmodule] at hresult
          obtain ⟨hinput, hmoduleId, hpath⟩ := document_eq_ok hresult.1
          exact ⟨hinput, by rw [hpath, hmoduleId], place, hplace, hproper, by rw [hmoduleId, hid']⟩
      next e after hsource =>
          rw [Prod.mk.injEq, hread] at hsource
          cases h
          exact ⟨by rw [← hsource.2, hmid], fun module hmodule => by cases hmodule⟩
  next e mid hid =>
      obtain ⟨hmid, -⟩ := moduleId_run hid
      cases h
      exact ⟨hmid, fun id hid => by cases hid⟩

theorem GeneratedModule.extends_of_directories (module : GeneratedModule) (t : FileTree) :
    Extends t ((FileAccess.attempt (FileAccess.makeDirectories module.outputPath.parentSteps)
      (.directoryNotMade (Path.ofSteps module.outputPath.parentSteps)) :
        TreeAction ModuleError Unit).run t).2 :=
  Growing.makeDirectoriesUp _ t

/-- A document is saved by a write, after something may have been added. -/
theorem GeneratedModule.save_eq_ok (h : (module.save : TreeAction ModuleError Unit).run t =
    (.ok (), u)) :
    ∃ mid, Extends t mid ∧ mid.write module.outputPath module.text = .ok u := by
  obtain ⟨_, mid, hmade, hwritten⟩ := TreeAction.run_bind_eq_ok h
  have hmid : Extends t mid := by
    simpa only [hmade] using extends_of_directories module t
  rw [TreeAction.run_write] at hwritten
  split at hwritten
  next written hdone =>
      cases hwritten
      exact ⟨mid, hmid, hdone⟩
  next => cases hwritten

theorem GeneratedModule.save_eq_error {e : ModuleError}
    (h : (module.save : TreeAction ModuleError Unit).run t = (.error e, u)) : Extends t u := by
  have hdirectories := extends_of_directories module t
  rcases TreeAction.run_bind_eq_error h with hmade | ⟨_, mid, hmade, hwritten⟩
  · simpa only [hmade] using hdirectories
  · have hmid : Extends t mid := by simpa only [hmade] using hdirectories
    rw [TreeAction.run_write] at hwritten
    split at hwritten
    next => cases hwritten
    next =>
        cases hwritten
        exact hmid

/-- What is done with an input, when documents are written. -/
inductive Settings.Processed (settings : Settings) (input : Path) (t : FileTree) :
    Except ModuleError GeneratedModule → FileTree → Prop
  /-- Nothing is written if something fails. -/
  | failed {u : FileTree} (e : ModuleError) (extends_ : Extends t u) :
      Processed settings input t (.error e) u
  /-- The document is written to the path of its place. -/
  | written {mid u : FileTree} {module : GeneratedModule} {place : ModulePlace}
      (input_eq : module.input = input)
      (place_eq : modulePlaceOf? settings.moduleRoot input t = some place)
      (proper : place.IsProper)
      (moduleId_eq : module.moduleId = place.id settings.packageName)
      (outputPath_eq : module.outputPath = outputPath settings.typings module.moduleId)
      (extends_ : Extends t mid)
      (write_eq : mid.write module.outputPath module.text = .ok u) :
      Processed settings input t (.ok module) u

theorem Settings.processInput_run (hwrites : settings.dryRun = false)
    {result : Except ModuleError GeneratedModule}
    (h : (settings.processInput input : TreeAction ModuleError GeneratedModule).run t =
      (result, u)) :
    settings.Processed input t result u := by
  unfold processInput at h
  rw [TreeAction.run_bind] at h
  split at h
  next module mid hgenerated =>
      obtain ⟨rfl, hmodule⟩ := generateModule_run hgenerated
      obtain ⟨hinput, hpath, place, hplace, hproper, hid⟩ := hmodule module rfl
      simp only [hwrites, Bool.not_false, if_true] at h
      cases result with
      | error e =>
          rcases TreeAction.run_bind_eq_error h with hsaved | ⟨_, after, -, hreturned⟩
          · exact .failed e (GeneratedModule.save_eq_error hsaved)
          · cases hreturned
      | ok saved =>
          obtain ⟨⟨⟩, after, hsaved, hreturned⟩ := TreeAction.run_bind_eq_ok h
          cases hreturned
          obtain ⟨before, hextends, hwrite⟩ := GeneratedModule.save_eq_ok hsaved
          exact .written hinput hplace hproper hid hpath hextends hwrite
  next e mid hgenerated =>
      obtain ⟨hmid, -⟩ := generateModule_run hgenerated
      cases h
      exact .failed e (hmid ▸ Extends.refl _)

theorem ModulePlace.destination_ne (typings : Path) (package : String) {place other : ModulePlace}
    (hplace : place.IsProper) (hother : other.IsProper) (hne : place ≠ other) (tree : FileTree) :
    tree.destination (outputPath typings (place.id package)) ≠
      tree.destination (outputPath typings (other.id package)) := by
  obtain ⟨front, hfront, hpieces⟩ := exists_pieces_outputPath typings package
  obtain ⟨base, hbase⟩ := tree.exists_destination_append hfront
  have hlocation : ∀ p : ModulePlace, p.IsProper →
      tree.destination (outputPath typings (p.id package)) = base ++ p.outputNames :=
    fun p hp => hbase _ _ (hpieces p hp) fun name hname => (hp.outputNames name hname).isName
  rw [hlocation place hplace, hlocation other hother]
  exact fun h => hne (outputNames_inj (List.append_cancel_left h))

end

/-- What is done with inputs one after the other, when documents are written. -/
inductive Settings.Runs (settings : Settings) :
    List Path → FileTree → List (Path × Except ModuleError GeneratedModule) → FileTree → Prop
  | nil (t : FileTree) : Runs settings [] t [] t
  | cons {input : Path} {inputs : List Path} {t mid u : FileTree}
      {result : Except ModuleError GeneratedModule}
      {outcomes : List (Path × Except ModuleError GeneratedModule)}
      (first : settings.Processed input t result mid)
      (others : Runs settings inputs mid outcomes u) :
      Runs settings (input :: inputs) t ((input, result) :: outcomes) u

namespace Settings

variable {settings : Settings} {inputs : List Path} {t u : FileTree}
  {outcomes : List (Path × Except ModuleError GeneratedModule)}

/-- What is done with the inputs of a run, one after the other. -/
def outcomesOf (settings : Settings) (inputs : List Path) :
    StateM FileTree (List (Path × Except ModuleError GeneratedModule)) :=
  inputs.mapM fun input => do return (input, ← (settings.processInput input).run)

theorem outcomesOf_cons (input : Path) :
    settings.outcomesOf (input :: inputs) t =
      let (result, mid) := (settings.processInput input : TreeAction _ _).run t
      let (outcomes, u) := settings.outcomesOf inputs mid
      ((input, result) :: outcomes, u) := by
  unfold outcomesOf
  rw [List.mapM_cons]
  rfl

theorem runs_of_outcomesOf (hwrites : settings.dryRun = false)
    (h : settings.outcomesOf inputs t = (outcomes, u)) : settings.Runs inputs t outcomes u := by
  induction inputs generalizing t outcomes with
  | nil =>
      cases h
      exact .nil _
  | cons input inputs ih =>
      rw [outcomesOf_cons] at h
      cases hfirst : (settings.processInput input : TreeAction _ _).run t with
      | mk result mid =>
          cases hothers : settings.outcomesOf inputs mid with
          | mk others after =>
              simp only [hfirst, hothers] at h
              cases h
              exact .cons (processInput_run hwrites hfirst) (ih hothers)

theorem runs_of_run (hwrites : settings.dryRun = false) {report : Report}
    (h : (settings.run inputs : StateM FileTree Report) t = (report, u)) :
    ∃ outcomes, report = .ofOutcomes outcomes ∧ settings.Runs inputs t outcomes u := by
  cases houtcomes : settings.outcomesOf inputs t with
  | mk outcomes after =>
      have hrun : (Report.ofOutcomes outcomes, after) = (report, u) := by
        rw [← h]
        change _ = ((Report.ofOutcomes (settings.outcomesOf inputs t).1),
          (settings.outcomesOf inputs t).2)
        rw [houtcomes]
      cases hrun
      exact ⟨outcomes, rfl, runs_of_outcomesOf hwrites houtcomes⟩

/-- The documents that have been made and written. -/
def writtenOf (outcomes : List (Path × Except ModuleError GeneratedModule)) :
    List GeneratedModule :=
  outcomes.filterMap fun outcome => outcome.2.toOption

@[simp] theorem writtenOf_error (input : Path) (e : ModuleError) :
    writtenOf ((input, .error e) :: outcomes) = writtenOf outcomes := rfl

@[simp] theorem writtenOf_ok (input : Path) (module : GeneratedModule) :
    writtenOf ((input, .ok module) :: outcomes) = module :: writtenOf outcomes := rfl

theorem Processed.stores {input : Path} {result : Except ModuleError GeneratedModule}
    (h : settings.Processed input t result u) {place : ModulePlace} (hproper : place.IsProper)
    {text : String}
    (hstores : Stores t (outputPath settings.typings (place.id settings.packageName)) text)
    (hothers : ∀ module, result = .ok module →
      (outputPath settings.typings (place.id settings.packageName)).same module.outputPath ≠ true) :
    Stores u (outputPath settings.typings (place.id settings.packageName)) text := by
  cases h with
  | failed e hextends => exact hstores.extends hextends
  | @written mid _ module other hinput hplace hother hid hpath hextends hwrite =>
      have hdifferent := hothers module rfl
      rw [hpath, hid] at hdifferent
      have hne : place ≠ other := by
        rintro rfl
        exact hdifferent
          ((ModulePlace.same_outputPath_iff settings.typings settings.packageName hproper
            hproper).mpr rfl)
      rw [hpath, hid] at hwrite
      exact (hstores.extends hextends).write hwrite
        (ModulePlace.destination_ne settings.typings settings.packageName hproper hother hne mid)

theorem Runs.stores (h : settings.Runs inputs t outcomes u) {place : ModulePlace}
    (hproper : place.IsProper) {text : String}
    (hstores : Stores t (outputPath settings.typings (place.id settings.packageName)) text)
    (hothers : ∀ module ∈ writtenOf outcomes,
      (outputPath settings.typings (place.id settings.packageName)).same module.outputPath ≠ true) :
    Stores u (outputPath settings.typings (place.id settings.packageName)) text := by
  induction h with
  | nil => exact hstores
  | @cons input inputs t mid u result outcomes first others ih =>
      cases result with
      | error e => exact ih (first.stores hproper hstores fun _ h => by cases h) hothers
      | ok made =>
          simp only [writtenOf_ok, List.mem_cons, forall_eq_or_imp] at hothers
          refine ih (first.stores hproper hstores fun module hmodule => ?_) hothers.2
          cases hmodule
          exact hothers.1

/-- What holds of each written document as long as no later one has its path. -/
theorem Runs.written (h : settings.Runs inputs t outcomes u) {before after : List GeneratedModule}
    {module : GeneratedModule} (hsplit : writtenOf outcomes = before ++ module :: after) :
    (module.input ∈ inputs ∧
      module.outputPath = outputPath settings.typings module.moduleId ∧
      ∃ v place, modulePlaceOf? settings.moduleRoot module.input v = some place ∧
        place.IsProper ∧ module.moduleId = place.id settings.packageName) ∧
    ((∀ later ∈ after, module.outputPath.same later.outputPath ≠ true) →
      Stores u module.outputPath module.text) := by
  -- Induction on the run: either this input's document is `module`, or it comes later.
  induction h generalizing before with
  | nil => simp [writtenOf] at hsplit
  | @cons input inputs t mid u result outcomes first others ih =>
      cases first with
      | failed e hextends =>
          obtain ⟨⟨hinput, hrest⟩, hstores⟩ := ih (by simpa using hsplit)
          exact ⟨⟨List.mem_cons_of_mem _ hinput, hrest⟩, hstores⟩
      | @written added _ made place hinput hplace hproper hid hpath hextends hwrite =>
          have hmade : made :: writtenOf outcomes = before ++ module :: after := by
            simpa using hsplit
          cases before with
          | nil =>
              obtain ⟨rfl, rfl⟩ := List.cons.inj hmade
              refine ⟨⟨hinput ▸ List.mem_cons_self, hpath, t, place, hinput ▸ hplace, hproper, hid⟩,
                fun hlater => ?_⟩
              obtain ⟨-, hstores, -⟩ := FileTree.write_eq_ok hwrite
              rw [hpath, hid] at hstores hlater ⊢
              exact others.stores hproper hstores hlater
          | cons first before =>
              obtain ⟨⟨hinput, hrest⟩, hstores⟩ := ih (List.cons.inj hmade).2
              exact ⟨⟨List.mem_cons_of_mem _ hinput, hrest⟩, hstores⟩

/-- The paths of two documents are the same exactly if their modules stand at the same
place below the module root. So a run that writes keeps each document that it has made,
unless one that it makes later belongs to the same place. -/
theorem run_keeps_documents (settings : Settings) :
    (∀ (package : String) (root typings p q : Path) (t u : FileTree) (pId qId : String),
      ((moduleId package root p : TreeAction ModuleError String).run t).1 = .ok pId →
      ((moduleId package root q : TreeAction ModuleError String).run u).1 = .ok qId →
      ((outputPath typings pId).same (outputPath typings qId) = true ↔
        modulePlaceOf? root p t = modulePlaceOf? root q u)) ∧
    (settings.dryRun = false → ∀ (inputs : List Path) (t u : FileTree) (report : Report),
      (settings.run inputs : StateM FileTree Report) t = (report, u) →
      ∀ before module after, report.generated = before ++ module :: after →
        (module.input ∈ inputs ∧
          module.outputPath = outputPath settings.typings module.moduleId ∧
          ∃ v place, modulePlaceOf? settings.moduleRoot module.input v = some place ∧
            place.IsProper ∧ module.moduleId = place.id settings.packageName) ∧
        ((∀ later ∈ after, module.outputPath.same later.outputPath ≠ true) →
          Stores u module.outputPath module.text)) := by
  constructor
  · intro package root typings p q t u pId qId hp hq
    obtain ⟨place, hplace, hproper, rfl⟩ := exists_place_of_moduleId hp
    obtain ⟨other, hother, hproper', rfl⟩ := exists_place_of_moduleId hq
    rw [hplace, hother, Option.some.injEq]
    exact ModulePlace.same_outputPath_iff typings package hproper hproper'
  · intro hwrites inputs t u report hrun before module after hsplit
    obtain ⟨outcomes, rfl, hruns⟩ := runs_of_run hwrites hrun
    exact hruns.written hsplit

/-- The text of a program. -/
def programText (body : String) : String :=
  "\x7b\"type\":\"Program\",\"body\":[" ++ body ++ "]\x7d"

/-- Three files; the names of the first two differ in a `.js` only. -/
def sampleFiles : FileTree where
  nodes := [
    (["a.js.json"], .file (programText
      ("\x7b\"type\":\"ClassDeclaration\",\"id\":\x7b\"type\":\"Identifier\",\"name\":\"C\"\x7d," ++
        "\"body\":\x7b\"type\":\"ClassBody\",\"body\":[]\x7d\x7d")).toUTF8),
    (["a.json"], .file (programText "").toUTF8),
    (["b.json"], .file (programText "").toUTF8)]

def sampleSettings : Settings where
  packageName := "p"
  moduleRoot := ⟨"."⟩
  typings := ⟨"out"⟩
  dryRun := false
  options := { filter := .keepAll }

def sampleInputs : List Path := [⟨"./a.js.json"⟩, ⟨"./a.json"⟩, ⟨"./b.json"⟩]

def sampleRun : Report × FileTree :=
  (sampleSettings.run sampleInputs : StateM FileTree Report) sampleFiles

def sampleDocuments : List GeneratedModule := [
  ⟨⟨"./a.js.json"⟩, "p/a", ⟨"out/p/a.d.ts"⟩,
    "declare module 'p/a' \x7b\n  class C \x7b\n  \x7d\n\x7d\n"⟩,
  ⟨⟨"./a.json"⟩, "p/a", ⟨"out/p/a.d.ts"⟩, "declare module 'p/a' \x7b\n\x7d\n"⟩,
  ⟨⟨"./b.json"⟩, "p/b", ⟨"out/p/b.d.ts"⟩, "declare module 'p/b' \x7b\n\x7d\n"⟩]

theorem generated_sampleRun : sampleRun.1.generated = sampleDocuments := by decide +kernel

theorem run_keeps_second_document :
    sampleSettings.dryRun = false ∧
      ((outputPath ⟨"out"⟩ "p/a").same (outputPath ⟨"out"⟩ "p/b") = true ↔
        modulePlaceOf? ⟨"."⟩ ⟨"./a.json"⟩ sampleFiles =
          modulePlaceOf? ⟨"."⟩ ⟨"./b.json"⟩ sampleFiles) ∧
      sampleRun.1.generated = sampleDocuments ∧
      Stores sampleRun.2 ⟨"out/p/a.d.ts"⟩ "declare module 'p/a' \x7b\n\x7d\n" := by
  have hkeeps := run_keeps_documents sampleSettings
  refine ⟨rfl, hkeeps.1 "p" ⟨"."⟩ ⟨"out"⟩ ⟨"./a.json"⟩ ⟨"./b.json"⟩ sampleFiles sampleFiles
    "p/a" "p/b" rfl rfl, generated_sampleRun, ?_⟩
  have hrun : (sampleSettings.run sampleInputs : StateM FileTree Report) sampleFiles =
      (sampleRun.1, sampleRun.2) := (Prod.eta sampleRun).symm
  have hsecond := hkeeps.2 rfl sampleInputs sampleFiles sampleRun.2 sampleRun.1 hrun
    [_] _ [_] generated_sampleRun
  refine hsecond.2 fun later hlater => ?_
  rw [List.mem_singleton.mp hlater]
  decide +kernel

/-- Two different files of one directory, both listed, whose documents have one path.
The run reports both documents, and the file holds the later one. -/
theorem run_loses_first_document :
    ((discover [⟨"."⟩] : TreeAction SetupError (List Path)).run sampleFiles).1.toOption =
        some sampleInputs ∧
      (⟨"./a.js.json"⟩ : Path).same ⟨"./a.json"⟩ = false ∧
      ((moduleId "p" ⟨"."⟩ ⟨"./a.js.json"⟩ : TreeAction ModuleError String).run
        sampleFiles).1.toOption = some "p/a" ∧
      ((moduleId "p" ⟨"."⟩ ⟨"./a.json"⟩ : TreeAction ModuleError String).run
        sampleFiles).1.toOption = some "p/a" ∧
      sampleRun.1.generated = sampleDocuments ∧
      (sampleRun.2.read ⟨"out/p/a.d.ts"⟩).toOption =
        some "declare module 'p/a' \x7b\n\x7d\n".toUTF8 := by
  have hdiscovered : ((discover [⟨"."⟩] : TreeAction SetupError (List Path)).run
      sampleFiles).1 = .ok sampleInputs :=
    discover_of_pairwise [sampleInputs] rfl (by decide +kernel)
  exact ⟨by rw [hdiscovered, Except.toOption], by decide +kernel, by decide +kernel,
    by decide +kernel, generated_sampleRun, by decide +kernel⟩

end Settings

end Ambient
