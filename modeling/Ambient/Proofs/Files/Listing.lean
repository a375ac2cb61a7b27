import Ambient.Proofs.Files.Order
import Ambient.Proofs.Files.Ways

namespace Ambient.FileTree

/-!
# Files below a directory

A file below a directory is named by the directory's path and the names on the way from
there. Whatever is reached through another directory inside is also reached from the
outer one, by the same path.
-/

/-- A path to a file below a directory. -/
def IsBelow (tree : FileTree) (directory file : Path) : Prop :=
  ∃ (names : List String) (content : ByteArray),
    file.components = directory.components ++ names.map .name ∧
      tree.node? (tree.destination directory ++ names) = some (.file content)

/-- A path to a file or directory that is named through another directory. -/
structure IsInside (tree : FileTree) (directory path : Path) : Prop where
  isDirectory : tree.isDirectory directory = true
  found : tree.isFile path = true ∨ tree.isDirectory path = true
  named : ∃ names : List String, path.components = directory.components ++ names.map .name

section

variable {tree : FileTree} {directory path file : Path}

theorem IsInside.exists_destination (h : tree.IsInside directory path) :
    ∃ names : List String, path.components = directory.components ++ names.map .name ∧
      tree.destination path = tree.destination directory ++ names := by
  obtain ⟨names, hnames⟩ := h.named
  have hdirectory := text_ne_of_nodeAt (isDirectory_iff.mp h.isDirectory)
  exact ⟨names, hnames, tree.destination_of_names hdirectory hnames⟩

theorem IsInside.isBelow (h : tree.IsInside directory path) (hfile : tree.isFile path = true) :
    tree.IsBelow directory path := by
  obtain ⟨names, hnames, hdestination⟩ := h.exists_destination
  obtain ⟨-, content, hnode⟩ := locate_of_isFile hfile
  exact ⟨names, content, hnames, hdestination ▸ hnode⟩

theorem IsInside.isBelow_of_isBelow (h : tree.IsInside directory path)
    (hfile : tree.IsBelow path file) : tree.IsBelow directory file := by
  obtain ⟨names, hnames, hdestination⟩ := h.exists_destination
  obtain ⟨others, content, hothers, hnode⟩ := hfile
  refine ⟨names ++ others, content, ?_, ?_⟩
  · rw [hothers, hnames, List.map_append, List.append_assoc]
  · rw [← List.append_assoc, ← hdestination]
    exact hnode

theorem IsBelow.of_same {other : Path} (h : tree.IsBelow directory file)
    (hsame : file.same other = true) : tree.IsBelow directory other := by
  obtain ⟨names, content, hnames, hnode⟩ := h
  exact ⟨names, content, (Path.same_iff.mp hsame).symm.trans hnames, hnode⟩

end

/-- A tree that gives each location at most once, by proper names. -/
structure IsSound (tree : FileTree) : Prop where
  distinct : (tree.nodes.map Prod.fst).Nodup
  ne_root : ∀ entry ∈ tree.nodes, entry.1 ≠ []
  named : ∀ entry ∈ tree.nodes, ∀ name ∈ entry.1, IsProperName name

section

variable {tree : FileTree} {location : Location}

theorem IsSound.node?_of_mem (h : tree.IsSound) {node : Node}
    (hmem : (location, node) ∈ tree.nodes) : tree.node? location = some node := by
  rw [node?, if_neg (h.ne_root _ hmem)]
  obtain ⟨before, after, hsplit⟩ := List.append_of_mem hmem
  refine List.lookup_eq_some_iff.mpr ⟨before, after, hsplit, fun entry hentry => ?_⟩
  have hdistinct := h.distinct
  rw [hsplit, List.map_append, List.nodup_append] at hdistinct
  have hne := hdistinct.2.2 entry.1 (List.mem_map_of_mem hentry) location (by simp)
  simpa using hne.symm

theorem mem_of_node? {node : Node} (hne : location ≠ []) (h : tree.node? location = some node) :
    (location, node) ∈ tree.nodes := by
  rw [node?, if_neg hne] at h
  obtain ⟨before, after, hsplit, -⟩ := List.lookup_eq_some_iff.mp h
  simp [hsplit]

theorem namesBelow?_eq_some_iff {directory : Location} {names : List String} :
    namesBelow? directory location = some names ↔ location = directory ++ names := by
  induction directory generalizing location with
  | nil => cases location <;> simp [namesBelow?, eq_comm]
  | cons first directory ih =>
      cases location with
      | nil => simp [namesBelow?]
      | cons name location =>
          by_cases hname : first = name
          · simp [namesBelow?, hname, ih]
          · simp [namesBelow?, hname, Ne.symm hname]

theorem fileBelow?_eq_some_iff {directory : Location} {path file : Path}
    {entry : Location × Node} : fileBelow? directory path entry = some file ↔
      ∃ names content, entry = (directory ++ names, .file content) ∧
        file = names.foldl Path.join path := by
  obtain ⟨place, node⟩ := entry
  cases node with
  | directory => simp [fileBelow?]
  | sink => simp [fileBelow?]
  | file content =>
      cases hnames : namesBelow? directory place with
      | none =>
          have hplace : ∀ names, place ≠ directory ++ names := by
            intro names heq
            rw [namesBelow?_eq_some_iff.mpr heq] at hnames
            cases hnames
          simp [fileBelow?, hnames, hplace]
      | some names =>
          obtain rfl := namesBelow?_eq_some_iff.mp hnames
          simp [fileBelow?, hnames, eq_comm]

theorem components_of_isProperName {name : String} (h : IsProperName name) :
    (Path.mk name).components = [name].map .name := by
  have hpieces : (Path.mk ("/".intercalate [name])).pieces = [name] :=
    Path.pieces_intercalate (by simp) (by simpa using h.noSlash)
  rw [String.intercalate_singleton] at hpieces
  have hpiece := Component.ofPiece?_of_isName h.isName
  have hname := h.isName
  simp only [isName, Bool.and_eq_true, bne_iff_ne, ne_eq] at hname
  rw [Path.components_of_cons hpieces hname.1.1, Path.leading, if_neg hname.1.1,
    if_neg hname.1.2, hpiece]
  rfl

theorem components_foldl_join {names : List String} (h : ∀ name ∈ names, IsProperName name)
    (path : Path) :
    (names.foldl Path.join path).components = path.components ++ names.map .name := by
  induction names generalizing path with
  | nil => simp
  | cons name names ih =>
      obtain ⟨hname, hrest⟩ := List.forall_mem_cons.mp h
      rw [List.foldl_cons, ih hrest,
        path.components_join_of_names (components_of_isProperName hname), List.append_assoc]
      rfl

/-- The files that are listed for a directory are those below it. -/
theorem exists_filesBelow (hsound : tree.IsSound) {directory : Path}
    (hdirectory : tree.isDirectory directory = true) :
    ∃ files, tree.filesBelow directory = .ok files ∧
      ∀ path : Path, path.IsAmong files ↔ tree.IsBelow directory path := by
  have hlocate := (locate_of_nodeAt (isDirectory_iff.mp hdirectory)).1
  refine ⟨_, bind_eq_ok_iff.mpr ⟨_, hlocate, rfl⟩, fun path => ?_⟩
  constructor
  · rintro ⟨file, hfile, hsame⟩
    obtain ⟨entry, hentry, hfound⟩ := List.mem_filterMap.mp hfile
    obtain ⟨names, content, rfl, rfl⟩ := fileBelow?_eq_some_iff.mp hfound
    have hnames : ∀ name ∈ names, IsProperName name := fun name hname =>
      hsound.named _ hentry name (List.mem_append_right _ hname)
    rw [Path.same_iff, components_foldl_join hnames] at hsame
    exact ⟨names, content, hsame.symm, hsound.node?_of_mem hentry⟩
  · rintro ⟨names, content, hcomponents, hnode⟩
    have hne : tree.destination directory ++ names ≠ [] := by
      intro hroot
      rw [hroot] at hnode
      cases hnode
    have hentry := mem_of_node? hne hnode
    have hnames : ∀ name ∈ names, IsProperName name := fun name hname =>
      hsound.named _ hentry name (List.mem_append_right _ hname)
    refine ⟨names.foldl Path.join directory, ?_, ?_⟩
    · exact List.mem_filterMap.mpr ⟨_, hentry, fileBelow?_eq_some_iff.mpr ⟨_, _, rfl, rfl⟩⟩
    · rw [Path.same_iff, components_foldl_join hnames, hcomponents]

end

end Ambient.FileTree
