import Ambient.Proofs.Files.Listing
import Ambient.Proofs.Run.Outputs
import Mathlib.Data.List.TakeWhile

namespace Ambient

/-!
# The files of a run

The inputs of a run stand for a set of files. Which files are processed, and in which
order, hangs on that set alone, not on the order or the number of the inputs or on the
order in which directories are walked.
-/

/-- A path whose last name ends in `.json` behind a stem. -/
def Path.IsJson (path : Path) : Prop :=
  ∃ stem, stem ≠ "" ∧ path.components.getLast? = some (.name (stem ++ ".json"))

theorem bne_dot_of_notMem {text : String} (h : '.' ∉ text.toList) :
    ∀ c ∈ text.toList.reverse, (c != '.') = true := by
  intro c hc
  rw [List.mem_reverse] at hc
  exact bne_iff_ne.mpr (ne_of_mem_of_not_mem hc h)

theorem Path.nameExtension?_eq_none {name : String} (h : '.' ∉ name.toList) :
    nameExtension? name = none := by
  unfold nameExtension?
  dsimp only
  rw [List.dropWhile_eq_nil_iff.mpr (bne_dot_of_notMem h)]

theorem Path.nameExtension?_append {extension : String} (h : '.' ∉ extension.toList)
    (stem : String) : nameExtension? (stem ++ "." ++ extension) =
      if stem = "" then none else some extension := by
  have hreversed : (stem ++ "." ++ extension).toList.reverse =
      extension.toList.reverse ++ '.' :: stem.toList.reverse := by simp
  unfold nameExtension?
  dsimp only
  rw [hreversed, List.dropWhile_append_of_pos (bne_dot_of_notMem h),
    List.takeWhile_append_of_pos (bne_dot_of_notMem h)]
  cases hstem : stem.toList.reverse with
  | nil =>
      have hempty : stem = "" := by simpa using hstem
      simp [hempty]
  | cons c cs =>
      have hne : stem ≠ "" := by
        rintro rfl
        cases hstem
      simp [hne]

theorem Path.exists_last_dot {name : String} (h : '.' ∈ name.toList) :
    ∃ stem ending : String, '.' ∉ ending.toList ∧ name = stem ++ "." ++ ending := by
  obtain ⟨ending, stem, hsplit, hending⟩ :=
    List.eq_append_cons_of_mem (List.mem_reverse.mpr h)
  refine ⟨String.ofList stem.reverse, String.ofList ending.reverse, by simpa using hending, ?_⟩
  apply String.toList_inj.mp
  rw [← List.reverse_inj, hsplit]
  simp

theorem Path.nameExtension?_eq_some_iff {name extension : String}
    (hextension : '.' ∉ extension.toList) :
    nameExtension? name = some extension ↔ ∃ stem, stem ≠ "" ∧ name = stem ++ "." ++ extension := by
  constructor
  · intro h
    have hdot : '.' ∈ name.toList := by
      by_contra hnone
      rw [nameExtension?_eq_none hnone] at h
      cases h
    obtain ⟨stem, ending, hending, rfl⟩ := exists_last_dot hdot
    rw [nameExtension?_append hending] at h
    obtain ⟨hstem, hsame⟩ := Option.ite_none_left_eq_some.mp h
    cases hsame
    exact ⟨stem, hstem, rfl⟩
  · rintro ⟨stem, hstem, rfl⟩
    rw [nameExtension?_append hextension, if_neg hstem]

theorem Path.extension?_eq_json_iff (path : Path) :
    (path.extension? == some inputExtension) = true ↔ path.IsJson := by
  rw [beq_iff_eq, extension?, IsJson]
  cases hlast : path.components.getLast? with
  | none => simp
  | some component =>
      cases component with
      | name name =>
          have hending (stem : String) : stem ++ "." ++ inputExtension = stem ++ ".json" := by
            rw [String.append_assoc]
            rfl
          simp [nameExtension?_eq_some_iff (show '.' ∉ inputExtension.toList by decide), hending]
      | root => simp
      | here => simp
      | up => simp

theorem Path.IsJson.of_same {path other : Path} (h : path.IsJson) (hsame : path.same other = true) :
    other.IsJson := by
  rw [IsJson, ← same_iff.mp hsame]
  exact h

theorem Path.isAmong_filter_isJson {path : Path} {files : List Path} :
    path.IsAmong (files.filter fun file => file.extension? == some inputExtension) ↔
      path.IsJson ∧ path.IsAmong files := by
  constructor
  · rintro ⟨file, hfile, hsame⟩
    obtain ⟨hmem, hextension⟩ := List.mem_filter.mp hfile
    exact ⟨(file.extension?_eq_json_iff.mp hextension).of_same hsame, file, hmem, hsame⟩
  · rintro ⟨hjson, file, hmem, hsame⟩
    have hsame' : path.same file = true := same_iff.mpr (same_iff.mp hsame).symm
    have hextension := file.extension?_eq_json_iff.mpr (hjson.of_same hsame')
    exact ⟨file, List.mem_filter.mpr ⟨hmem, hextension⟩, hsame⟩

namespace FileTree

variable {tree : FileTree} {input path : Path}

/-- An input that is a file stands for itself, and a directory for the JSON files below it. -/
def StandsFor (tree : FileTree) (input path : Path) : Prop :=
  tree.isFile input = true ∧ input.same path = true ∨
    tree.isDirectory input = true ∧ path.IsJson ∧ tree.IsBelow input path

def IsThere (tree : FileTree) (input : Path) : Prop :=
  tree.isFile input = true ∨ tree.isDirectory input = true

theorem isDirectory_eq_false_of_isFile (h : tree.isFile input = true) :
    tree.isDirectory input = false := by
  obtain ⟨content, hnode⟩ := isFile_iff.mp h
  rw [← Bool.not_eq_true, isDirectory_iff, hnode]
  simp

/-- What is done with inputs: their files are listed, or one of them is missing. -/
def Answers (tree : FileTree) (inputs : List Path) : Except SetupError (List Path) → Prop
  | .ok files => (∀ input ∈ inputs, tree.IsThere input) ∧
      ∀ path : Path, path.IsAmong files ↔ ∃ input ∈ inputs, tree.StandsFor input path
  | .error _ => ∃ input ∈ inputs, ¬ tree.IsThere input

end FileTree

/-- In some states of a system, its files are those of a tree. They can be read without
leaving these states, and a directory is walked in any order. -/
structure ShowsTree {σ : Type} [FileAccess (StateM σ)] (good : σ → Prop) (tree : FileTree) :
    Prop where
  isFile : ∀ s path, good s → ∃ t, good t ∧
    (FileAccess.isFile path : StateM σ Bool) s = (tree.isFile path, t)
  isDirectory : ∀ s path, good s → ∃ t, good t ∧
    (FileAccess.isDirectory path : StateM σ Bool) s = (tree.isDirectory path, t)
  filesBelow : ∀ s directory, good s → tree.isDirectory directory = true → ∃ files t, good t ∧
    (FileAccess.filesBelow directory : StateM σ (Except FileError (List Path))) s =
      (.ok files, t) ∧
    ∀ path : Path, path.IsAmong files ↔ tree.IsBelow directory path

theorem FileTree.IsSound.showsTree {tree : FileTree} (h : tree.IsSound) :
    ShowsTree (fun t : FileTree => t = tree) tree where
  isFile s path hs := ⟨s, hs, by subst hs; rfl⟩
  isDirectory s path hs := ⟨s, hs, by subst hs; rfl⟩
  filesBelow s directory hs hdirectory := by
    subst hs
    obtain ⟨files, hfiles, hbelow⟩ := exists_filesBelow h hdirectory
    exact ⟨files, s, rfl, congrArg (·, s) hfiles, hbelow⟩

namespace ShowsTree

variable {σ : Type} [FileAccess (StateM σ)] {good : σ → Prop} {tree : FileTree} {s : σ}

theorem filesOf_run (h : ShowsTree good tree) (hs : good s) (input : Path) :
    ∃ result t, good t ∧
      (filesOf input : ExceptT SetupError (StateM σ) (List Path)).run s = (result, t) ∧
      tree.Answers [input] result := by
  obtain ⟨t, ht, hfile⟩ := h.isFile s input hs
  unfold filesOf
  simp only [TreeAction.run_bind, TreeAction.run_lift, hfile]
  cases hisFile : tree.isFile input with
  | true =>
      refine ⟨_, t, ht, rfl, ?_, fun path => ?_⟩
      · simp [FileTree.IsThere, hisFile]
      · have hisDirectory := FileTree.isDirectory_eq_false_of_isFile hisFile
        simp [FileTree.StandsFor, Path.IsAmong, hisFile, hisDirectory]
  | false =>
      obtain ⟨u, hu, hdirectory⟩ := h.isDirectory t input ht
      simp only [Bool.false_eq_true, if_false, TreeAction.run_bind, TreeAction.run_lift, hdirectory]
      cases hisDirectory : tree.isDirectory input with
      | false =>
          refine ⟨_, u, hu, rfl, input, List.mem_singleton_self input, ?_⟩
          simp [FileTree.IsThere, hisFile, hisDirectory]
      | true =>
          obtain ⟨files, v, hv, hfiles, hbelow⟩ := h.filesBelow u input hu hisDirectory
          simp only [Bool.not_true, Bool.false_eq_true, if_false, TreeAction.run_bind,
            TreeAction.run_attempt, hfiles, Except.mapError]
          refine ⟨_, v, hv, rfl, ?_, fun path => ?_⟩
          · simp [FileTree.IsThere, hisDirectory]
          · rw [Path.isAmong_filter_isJson, hbelow]
            simp [FileTree.StandsFor, hisFile, hisDirectory]

theorem mapM_filesOf_run (h : ShowsTree good tree) (hs : good s) (inputs : List Path) :
    ∃ result t, good t ∧
      (inputs.mapM filesOf : ExceptT SetupError (StateM σ) (List (List Path))).run s =
        (result, t) ∧
      tree.Answers inputs (result.map List.flatten) := by
  induction inputs generalizing s with
  | nil => exact ⟨.ok [], s, hs, rfl, by simp, fun path => by simp [Path.IsAmong]⟩
  | cons input inputs ih =>
      obtain ⟨first, t, ht, hfirst, hanswer⟩ := h.filesOf_run hs input
      rw [List.mapM_cons]
      simp only [TreeAction.run_bind, hfirst]
      cases first with
      | error e =>
          obtain ⟨missing, hmem, hmissing⟩ := hanswer
          exact ⟨_, t, ht, rfl, missing, List.mem_append_left inputs hmem, hmissing⟩
      | ok files =>
          obtain ⟨hthere, hfiles⟩ := hanswer
          obtain ⟨rest, u, hu, hrest, hothers⟩ := ih ht
          simp only [hrest]
          cases rest with
          | error e =>
              obtain ⟨missing, hmem, hmissing⟩ := hothers
              exact ⟨_, u, hu, rfl, missing, List.mem_cons_of_mem input hmem, hmissing⟩
          | ok lists =>
              obtain ⟨hall, hlists⟩ := hothers
              refine ⟨_, u, hu, rfl, ?_, fun path => ?_⟩
              · exact List.forall_mem_cons.mpr ⟨hthere input (List.mem_singleton_self input), hall⟩
              · rw [List.flatten_cons, Path.isAmong_append, hfiles, hlists]
                simp

theorem discover_run (h : ShowsTree good tree) (hs : good s) (inputs : List Path) :
    ∃ result, ((discover inputs : ExceptT SetupError (StateM σ) (List Path)).run s).1 = result ∧
      tree.Answers inputs result ∧ ∀ files, result = .ok files → files.Pairwise Path.Before := by
  obtain ⟨result, t, -, hrun, hanswers⟩ := h.mapM_filesOf_run hs inputs
  unfold discover
  simp only [TreeAction.run_bind, hrun]
  cases result with
  | error e => exact ⟨_, rfl, hanswers, fun files hfiles => by cases hfiles⟩
  | ok lists =>
      obtain ⟨hthere, hlists⟩ := hanswers
      refine ⟨_, rfl, ⟨hthere, fun path => ?_⟩, fun files hfiles => ?_⟩
      · rw [isAmong_inputOrder, hlists]
      · cases hfiles
        exact pairwise_inputOrder lists.flatten

theorem discover_of_isThere (h : ShowsTree good tree) (hs : good s)
    {inputs : List Path} (hthere : ∀ input ∈ inputs, tree.IsThere input) :
    ∃ files, ((discover inputs : ExceptT SetupError (StateM σ) (List Path)).run s).1 = .ok files ∧
      files.Pairwise Path.Before ∧
      ∀ path : Path, path.IsAmong files ↔ ∃ input ∈ inputs, tree.StandsFor input path := by
  obtain ⟨result, hrun, hanswers, hordered⟩ := h.discover_run hs inputs
  cases result with
  | error e =>
      obtain ⟨input, hinput, hmissing⟩ := hanswers
      exact absurd (hthere input hinput) hmissing
  | ok files => exact ⟨files, hrun, hordered files rfl, hanswers.2⟩

theorem discover_error_iff (h : ShowsTree good tree) (hs : good s) (inputs : List Path) :
    (∃ e, ((discover inputs : ExceptT SetupError (StateM σ) (List Path)).run s).1 = .error e) ↔
      ∃ input ∈ inputs, ¬ tree.IsThere input := by
  obtain ⟨result, hrun, hanswers, -⟩ := h.discover_run hs inputs
  rw [hrun]
  cases result with
  | error e => exact ⟨fun _ => hanswers, fun _ => ⟨e, rfl⟩⟩
  | ok files =>
      constructor
      · rintro ⟨e, ⟨⟩⟩
      · rintro ⟨input, hinput, hmissing⟩
        exact absurd (hanswers.1 input hinput) hmissing

end ShowsTree

namespace FileTree

variable {tree : FileTree} {inputs others : List Path} {directory input path : Path}

/-- An input inside an input directory stands for nothing more than the directory, unless
it is a file itself. -/
theorem StandsFor.of_isInside (h : tree.StandsFor input path)
    (hinside : tree.IsInside directory input) :
    tree.StandsFor directory path ∨ tree.isFile input = true ∧ input.same path = true := by
  rcases h with h | ⟨-, hjson, hbelow⟩
  · exact .inr h
  · exact .inl (.inr ⟨hinside.isDirectory, hjson, hinside.isBelow_of_isBelow hbelow⟩)

theorem StandsFor.of_isInside_json (h : tree.StandsFor input path)
    (hinside : tree.IsInside directory input)
    (hinput : tree.isDirectory input = true ∨ input.IsJson) : tree.StandsFor directory path := by
  rcases h.of_isInside hinside with hdirectory | ⟨hfile, hsame⟩
  · exact hdirectory
  · have hjson : input.IsJson := by
      refine hinput.resolve_left ?_
      simp [isDirectory_eq_false_of_isFile hfile]
    exact .inr ⟨hinside.isDirectory, hjson.of_same hsame, (hinside.isBelow hfile).of_same hsame⟩

/-- Inputs that are named again, in any order and number, among files and directories that
are inside them. -/
structure Repeats (tree : FileTree) (inputs others : List Path) : Prop where
  kept : ∀ input ∈ inputs, input ∈ others
  inside : ∀ other ∈ others, other ∈ inputs ∨ ∃ input ∈ inputs, tree.IsInside input other

theorem Repeats.isThere (h : tree.Repeats inputs others)
    (hthere : ∀ input ∈ inputs, tree.IsThere input) : ∀ other ∈ others, tree.IsThere other := by
  intro other hother
  rcases h.inside other hother with hinput | ⟨input, -, hinside⟩
  · exact hthere other hinput
  · exact hinside.found

theorem Repeats.standsFor_iff (h : tree.Repeats inputs others) :
    (∃ other ∈ others, tree.StandsFor other path) ↔
      (∃ input ∈ inputs, tree.StandsFor input path) ∨
        ∃ other ∈ others, tree.isFile other = true ∧ other.same path = true := by
  constructor
  · rintro ⟨other, hother, hstands⟩
    rcases h.inside other hother with hinput | ⟨input, hinput, hinside⟩
    · exact .inl ⟨other, hinput, hstands⟩
    · rcases hstands.of_isInside hinside with hstands | hfile
      · exact .inl ⟨input, hinput, hstands⟩
      · exact .inr ⟨other, hother, hfile⟩
  · rintro (⟨input, hinput, hstands⟩ | ⟨other, hother, hfile⟩)
    · exact ⟨input, h.kept input hinput, hstands⟩
    · exact ⟨other, hother, .inl hfile⟩

theorem Repeats.standsFor_iff_of_json (h : tree.Repeats inputs others)
    (hothers : ∀ other ∈ others,
      other ∈ inputs ∨ tree.isDirectory other = true ∨ other.IsJson) :
    (∃ other ∈ others, tree.StandsFor other path) ↔
      ∃ input ∈ inputs, tree.StandsFor input path := by
  constructor
  · rintro ⟨other, hother, hstands⟩
    rcases h.inside other hother with hinput | ⟨input, hinput, hinside⟩
    · exact ⟨other, hinput, hstands⟩
    · rcases hothers other hother with hsame | hjson
      · exact ⟨other, hsame, hstands⟩
      · exact ⟨input, hinput, hstands.of_isInside_json hinside hjson⟩
  · rintro ⟨input, hinput, hstands⟩
    exact ⟨input, h.kept input hinput, hstands⟩

end FileTree

/-- The inputs of a run stand for a set of files. Without a missing input these files are
found, strictly in order, and inputs that repeat others or lie inside them change nothing:
only a file that is not JSON is found because it is named. -/
theorem discover_set_of_files {σ : Type} [FileAccess (StateM σ)] {good : σ → Prop}
    {tree : FileTree} (h : ShowsTree good tree) {s : σ} (hs : good s) (inputs : List Path) :
    ((∃ e, ((discover inputs : ExceptT SetupError (StateM σ) (List Path)).run s).1 = .error e) ↔
      ∃ input ∈ inputs, tree.isFile input = false ∧ tree.isDirectory input = false) ∧
    ((∀ input ∈ inputs, tree.isFile input = true ∨ tree.isDirectory input = true) →
      ∃ files, ((discover inputs : ExceptT SetupError (StateM σ) (List Path)).run s).1 =
          .ok files ∧
        files.Pairwise Path.Before ∧
        (∀ path : Path, path.IsAmong files ↔ ∃ input ∈ inputs, tree.StandsFor input path) ∧
        ∀ (t : σ) (others : List Path), good t → tree.Repeats inputs others →
          ∃ found, ((discover others : ExceptT SetupError (StateM σ) (List Path)).run t).1 =
              .ok found ∧
            (∀ path : Path, path.IsAmong found ↔
              path.IsAmong files ∨
                ∃ other ∈ others, tree.isFile other = true ∧ other.same path = true) ∧
            ((∀ other ∈ others,
                other ∈ inputs ∨ tree.isDirectory other = true ∨ other.IsJson) →
              found.map Path.components = files.map Path.components)) := by
  constructor
  · rw [h.discover_error_iff hs]
    simp [FileTree.IsThere]
  · intro hthere
    obtain ⟨files, hfiles, hordered, hmem⟩ := h.discover_of_isThere hs hthere
    refine ⟨files, hfiles, hordered, hmem, fun t others ht hrepeats => ?_⟩
    obtain ⟨found, hfound, hordered', hmem'⟩ := h.discover_of_isThere ht (hrepeats.isThere hthere)
    refine ⟨found, hfound, fun path => ?_, fun hothers => ?_⟩
    · rw [hmem', hmem, hrepeats.standsFor_iff]
    · refine Path.components_eq_of_isAmong_iff hordered' hordered fun path => ?_
      rw [hmem', hmem, hrepeats.standsFor_iff_of_json hothers]

/-- A directory with a directory inside it, and files with and without JSON. -/
def FileTree.nested : FileTree where
  nodes := [(["e.txt"], .file .empty), (["d"], .directory), (["d", "b.json"], .file .empty),
    (["d", "sub"], .directory), (["d", "sub", "a.json"], .file .empty),
    (["d", "sub", "note.txt"], .file .empty)]

theorem FileTree.nested_isSound : FileTree.nested.IsSound where
  distinct := by decide
  ne_root := by simp [nested]
  named := by
    have hnames : ∀ location ∈ nested.nodes.map Prod.fst, ∀ name ∈ location,
        isName name = true ∧ '/' ∉ name.toList := by decide
    intro entry hentry name hname
    obtain ⟨hisName, hslash⟩ := hnames entry.1 (List.mem_map_of_mem hentry) name hname
    exact ⟨hisName, hslash⟩

/-- The directories `d` and `d/sub` overlap, and the file `d//b.json` is inside `d`. -/
theorem discover_set_of_files_overlapping :
    FileTree.nested.IsSound ∧
      FileTree.nested.Repeats [⟨"d"⟩, ⟨"e.txt"⟩]
        [⟨"d/sub"⟩, ⟨"e.txt"⟩, ⟨"d//b.json"⟩, ⟨"d"⟩, ⟨"d"⟩] ∧
      ∃ files found : List Path,
        ((discover [⟨"d"⟩, ⟨"e.txt"⟩] :
          ExceptT SetupError (StateM FileTree) (List Path)).run .nested).1 = .ok files ∧
        ((discover [⟨"d/sub"⟩, ⟨"e.txt"⟩, ⟨"d//b.json"⟩, ⟨"d"⟩, ⟨"d"⟩] :
          ExceptT SetupError (StateM FileTree) (List Path)).run .nested).1 = .ok found ∧
        found.map Path.components = files.map Path.components ∧
        (Path.mk "d/./sub/a.json").IsAmong files := by
  have hrepeats : FileTree.nested.Repeats [⟨"d"⟩, ⟨"e.txt"⟩]
      [⟨"d/sub"⟩, ⟨"e.txt"⟩, ⟨"d//b.json"⟩, ⟨"d"⟩, ⟨"d"⟩] := {
    kept := by simp
    inside := by
      intro other hother
      rcases (by simpa using hother : _ ∨ _ ∨ _ ∨ _) with rfl | rfl | rfl | rfl
      · exact .inr ⟨⟨"d"⟩, by simp, by decide, .inr (by decide), ["sub"], by decide⟩
      · exact .inl (by simp)
      · exact .inr ⟨⟨"d"⟩, by simp, by decide, .inl (by decide), ["b.json"], by decide⟩
      · exact .inl (by simp) }
  obtain ⟨files, hfiles, -, hmem, hsame⟩ :=
    (discover_set_of_files FileTree.nested_isSound.showsTree rfl [⟨"d"⟩, ⟨"e.txt"⟩]).2 (by decide)
  obtain ⟨found, hfound, -, hequal⟩ := hsame .nested _ rfl hrepeats
  refine ⟨FileTree.nested_isSound, hrepeats, files, found, hfiles, hfound, hequal ?_, ?_⟩
  · intro other hother
    rcases (by simpa using hother : _ ∨ _ ∨ _ ∨ _) with rfl | rfl | rfl | rfl
    · exact .inr (.inl (by decide))
    · exact .inl (by simp)
    · exact .inr (.inr ⟨"b", by decide, by decide⟩)
    · exact .inl (by simp)
  · rw [hmem]
    exact ⟨⟨"d"⟩, by simp, .inr ⟨by decide, ⟨"a", by decide, by decide⟩,
      ["sub", "a.json"], .empty, by decide, rfl⟩⟩

/-- Files are taken as given. The text file in `d/sub` is not found with the directory `d`,
but it is found when it is named beside it. -/
theorem discover_adds_named_file :
    FileTree.nested.IsSound ∧
      FileTree.nested.Repeats [⟨"d"⟩] [⟨"d"⟩, ⟨"d/sub/note.txt"⟩] ∧
      ((discover [⟨"d"⟩] : ExceptT SetupError (StateM FileTree) (List Path)).run .nested).1 =
        .ok [⟨"d/b.json"⟩, ⟨"d/sub/a.json"⟩] ∧
      ((discover [⟨"d"⟩, ⟨"d/sub/note.txt"⟩] :
          ExceptT SetupError (StateM FileTree) (List Path)).run .nested).1 =
        .ok [⟨"d/b.json"⟩, ⟨"d/sub/a.json"⟩, ⟨"d/sub/note.txt"⟩] ∧
      ¬ (Path.mk "d/sub/note.txt").IsAmong [⟨"d/b.json"⟩, ⟨"d/sub/a.json"⟩] := by
  refine ⟨FileTree.nested_isSound, ⟨by simp, fun other hother => ?_⟩,
    discover_of_pairwise [[⟨"d/b.json"⟩, ⟨"d/sub/a.json"⟩]] rfl (by decide),
    discover_of_pairwise [[⟨"d/b.json"⟩, ⟨"d/sub/a.json"⟩], [⟨"d/sub/note.txt"⟩]] rfl
      (by decide), ?_⟩
  · rcases (by simpa using hother : _ ∨ _) with rfl | rfl
    · exact .inl (by simp)
    · exact .inr ⟨⟨"d"⟩, by simp, by decide, .inl (by decide), ["sub", "note.txt"], by decide⟩
  · rw [Path.isAmong_iff]
    decide

end Ambient
