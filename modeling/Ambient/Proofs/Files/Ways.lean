import Ambient.Proofs.Files.Growth
import Ambient.Proofs.Files.Paths

namespace Ambient

/-!
# Ways through a tree

Where a path leads is decided by its names and the steps up among its components. So
whoever gets to a place by a path that begins like another one has come through the
directory of that other one.
-/

namespace Component

/-- Whether a component is a step of a way. -/
def isStep : Component → Bool
  | .up => true
  | .name _ => true
  | _ => false

end Component

namespace Path

/-- The pieces of a path that lead somewhere else. -/
def way (path : Path) : List String := (path.components.filter Component.isStep).map Component.text

/-- Whether a piece of a path stays where it is. -/
def stays (piece : String) : Bool := piece = "" || piece = "."

theorem steps_ofPiece? (pieces : List String) :
    ((pieces.filterMap Component.ofPiece?).filter Component.isStep).map Component.text =
      pieces.filter (!stays ·) := by
  induction pieces with
  | nil => rfl
  | cons piece pieces ih =>
      by_cases hempty : piece = ""
      · simpa [hempty, Component.ofPiece?, stays] using ih
      · by_cases hhere : piece = "."
        · simpa [hhere, Component.ofPiece?, stays] using ih
        · by_cases hup : piece = ".."
          · simpa [hup, Component.ofPiece?, stays, Component.isStep, Component.text,
              List.filter_cons] using ih
          · simpa [hempty, hhere, hup, Component.ofPiece?, stays, Component.isStep,
              Component.text, List.filter_cons] using ih

/-- Only a path's first component can be the root or the `.` that it starts with. -/
theorem isStep_of_mem_below {path : Path} {above below : List Component} (habove : above ≠ [])
    (h : path.components = above ++ below) : ∀ component ∈ below, component.isStep = true := by
  have hne : path.text ≠ "" := by
    rw [ne_eq, ← components_eq_nil_iff, h]
    simp [habove]
  obtain ⟨first, rest, hpieces⟩ := path.exists_pieces
  obtain ⟨lead, hleading⟩ := exists_leading first
  obtain ⟨start, others, rfl⟩ := List.exists_cons_of_ne_nil habove
  rw [components_of_cons hpieces hne, hleading] at h
  have hrest : rest.filterMap Component.ofPiece? = others ++ below := (List.cons.inj h).2
  intro component hmem
  have hpiece : component ∈ rest.filterMap Component.ofPiece? := by
    rw [hrest]
    exact List.mem_append_right others hmem
  obtain ⟨piece, -, hpiece⟩ := List.mem_filterMap.mp hpiece
  unfold Component.ofPiece? at hpiece
  split at hpiece
  · cases hpiece
  · split at hpiece
    · cases hpiece
    · split at hpiece <;> cases hpiece <;> rfl

theorem way_of_components {path root : Path} {below : List Component}
    (h : path.components = root.components ++ below) :
    path.way = root.way ++ (below.filter Component.isStep).map Component.text := by
  rw [way, h, List.filter_append, List.map_append, way]

theorem steps_of_names (names : List String) :
    ((names.map Component.name).filter Component.isStep).map Component.text = names := by
  induction names with
  | nil => rfl
  | cons name names ih => simpa [Component.isStep, Component.text, List.filter_cons] using ih

end Path

namespace FileTree

/-- Where the way of a path starts. -/
def startOf (tree : FileTree) (path : Path) : Location :=
  if path.components.head? = some .root then [] else tree.workingDirectory

theorem route_eq (tree : FileTree) {path : Path} (hne : path.text ≠ "") :
    (tree.route path).1 = tree.startOf path ∧
      (tree.route path).2.filter (!Path.stays ·) = path.way := by
  obtain ⟨first, rest, hpieces⟩ := path.exists_pieces
  have hcomponents := Path.components_of_cons hpieces hne
  have hrest := Path.steps_ofPiece? rest
  by_cases hempty : first = ""
  · have hroute : tree.route path = ([], rest) := by
      simp [route, hpieces, hempty]
    have hleading : Path.leading first = [.root] := by simp [Path.leading, hempty]
    rw [hroute, startOf, Path.way, hcomponents, hleading]
    exact ⟨by simp, by simpa [Component.isStep] using hrest.symm⟩
  · have hroute : tree.route path = (tree.workingDirectory, first :: rest) := by
      simp [route, hpieces, hempty]
    rw [hroute, startOf, Path.way, hcomponents]
    by_cases hhere : first = "."
    · have hleading : Path.leading first = [.here] := by simp [Path.leading, hhere]
      rw [hleading]
      exact ⟨by simp, by simpa [hhere, Component.isStep, Path.stays] using hrest.symm⟩
    · have hstay : Path.stays first = false := by simp [Path.stays, hempty, hhere]
      by_cases hup : first = ".."
      · have hleading : Path.leading first = [.up] := by
          simp [Path.leading, hup, Component.ofPiece?]
        rw [hleading]
        refine ⟨by simp, ?_⟩
        rw [hup] at hstay ⊢
        simpa [hstay, Component.isStep, Component.text, List.filter_cons] using hrest.symm
      · have hleading : Path.leading first = [.name first] := by
          simp [Path.leading, hempty, hhere, hup, Component.ofPiece?]
        rw [hleading]
        refine ⟨by simp, ?_⟩
        simpa [hstay, Component.isStep, Component.text, List.filter_cons] using hrest.symm

theorem startOf_of_components (tree : FileTree) {path root : Path} {below : List Component}
    (hroot : root.components ≠ []) (h : path.components = root.components ++ below) :
    tree.startOf path = tree.startOf root := by
  obtain ⟨first, rest, hfirst⟩ := List.exists_cons_of_ne_nil hroot
  rw [startOf, startOf, h, hfirst]
  rfl

theorem foldl_follow_filter (pieces : List String) (location : Location) :
    (pieces.filter (!Path.stays ·)).foldl follow location = pieces.foldl follow location := by
  induction pieces generalizing location with
  | nil => rfl
  | cons piece pieces ih =>
      cases hstay : Path.stays piece with
      | false => simp [hstay, ih]
      | true =>
          have hpiece : piece = "" ∨ piece = "." := by simpa [Path.stays] using hstay
          simp [hstay, ih, follow, hpiece]

theorem destination_eq_way (tree : FileTree) {path : Path} (hne : path.text ≠ "") :
    tree.destination path = path.way.foldl follow (tree.startOf path) := by
  obtain ⟨hstart, hway⟩ := tree.route_eq hne
  rw [destination, ← foldl_follow_filter, hway, hstart]

/-- Behind a directory, names lead to where they say, however the path is spelled. -/
theorem destination_of_names (tree : FileTree) {path directory : Path} {names : List String}
    (hdirectory : directory.text ≠ "")
    (h : path.components = directory.components ++ names.map .name) :
    tree.destination path = tree.destination directory ++ names := by
  have hcomponents : directory.components ≠ [] := by
    rwa [ne_eq, Path.components_eq_nil_iff]
  have hne : path.text ≠ "" := by
    rw [ne_eq, ← Path.components_eq_nil_iff, h]
    simp [hcomponents]
  have hnames : ∀ name ∈ names, isName name = true := by
    intro name hname
    refine (@Path.isProperName_of_mem_components path name ?_).isName
    rw [h]
    exact List.mem_append_right _ (List.mem_map_of_mem hname)
  rw [tree.destination_eq_way hne, tree.destination_eq_way hdirectory,
    Path.way_of_components h, tree.startOf_of_components hcomponents h, List.foldl_append,
    Path.steps_of_names, foldl_follow_names hnames]

theorem enterAll_filter {tree : FileTree} {pieces : List String} {location found : Location}
    (h : pieces.foldlM tree.enter location = .ok found) :
    (pieces.filter (!Path.stays ·)).foldlM tree.enter location = .ok found := by
  induction pieces generalizing location with
  | nil => exact h
  | cons piece pieces ih =>
      rw [List.foldlM_cons] at h
      obtain ⟨next, hnext, hrest⟩ := bind_eq_ok_iff.mp h
      cases hstay : Path.stays piece with
      | false =>
          rw [List.filter_cons_of_pos (by simp [hstay]), List.foldlM_cons]
          exact bind_eq_ok_iff.mpr ⟨next, hnext, ih hrest⟩
      | true =>
          have hsame : next = location := by
            have hfollow := ((enter_eq_ok_iff tree location piece next).mp hnext).2.2
            have hpiece : piece = "" ∨ piece = "." := by simpa [Path.stays] using hstay
            rwa [follow, if_pos hpiece] at hfollow
          rw [List.filter_cons_of_neg (by simp [hstay])]
          exact ih (hsame ▸ hrest)

theorem enterAll_of_filter {tree : FileTree} {pieces : List String} {location found : Location}
    (h : (pieces.filter (!Path.stays ·)).foldlM tree.enter location = .ok found)
    (hdirectory : tree.node? found = some .directory) :
    pieces.foldlM tree.enter location = .ok found := by
  induction pieces generalizing location with
  | nil => exact h
  | cons piece pieces ih =>
      rw [List.foldlM_cons]
      cases hstay : Path.stays piece with
      | false =>
          rw [List.filter_cons_of_pos (by simp [hstay]), List.foldlM_cons] at h
          obtain ⟨next, hnext, hrest⟩ := bind_eq_ok_iff.mp h
          exact bind_eq_ok_iff.mpr ⟨next, hnext, ih hrest⟩
      | true =>
          rw [List.filter_cons_of_neg (by simp [hstay])] at h
          have hhere : tree.node? location = some .directory := by
            -- What comes next is entered from here; at the end this is the directory found.
            cases hrest : pieces.filter (!Path.stays ·) with
            | nil =>
                rw [hrest] at h
                cases h
                exact hdirectory
            | cons next others =>
                rw [hrest, List.foldlM_cons] at h
                obtain ⟨after, hafter, -⟩ := bind_eq_ok_iff.mp h
                exact ((enter_eq_ok_iff tree location next after).mp hafter).1
          have hpiece : piece = "" ∨ piece = "." := by simpa [Path.stays] using hstay
          have hname : isName piece = false := by rcases hpiece with rfl | rfl <;> rfl
          refine bind_eq_ok_iff.mpr ⟨location, ?_, ih h⟩
          refine (enter_eq_ok_iff tree location piece location).mpr ⟨hhere, ?_, ?_⟩
          · intro hpiece
            rw [hname] at hpiece
            cases hpiece
          · rw [follow, if_pos hpiece]

theorem locate_of_nodeAt {tree : FileTree} {path : Path} {node : Node}
    (h : tree.nodeAt path = .ok node) : tree.locate path = .ok (tree.destination path) ∧
      tree.node? (tree.destination path) = some node := by
  obtain ⟨location, hlocation, hnode⟩ := bind_eq_ok_iff.mp h
  obtain rfl := eq_destination_of_locate hlocation
  refine ⟨hlocation, ?_⟩
  cases hfound : tree.node? (tree.destination path) with
  | none =>
      rw [hfound] at hnode
      exact absurd hnode throw_ne_ok
  | some found =>
      rw [hfound] at hnode
      cases hnode
      rfl

theorem text_ne_of_nodeAt {tree : FileTree} {path : Path} {node : Node}
    (h : tree.nodeAt path = .ok node) : path.text ≠ "" := by
  intro hempty
  have hlocate := (locate_of_nodeAt h).1
  rw [locate, if_pos hempty] at hlocate
  cases hlocate

theorem isFile_iff {tree : FileTree} {path : Path} :
    tree.isFile path = true ↔ ∃ content, tree.nodeAt path = .ok (.file content) := by
  unfold isFile
  split
  next content hnode => simp [hnode]
  next hnone => simpa using hnone

theorem isDirectory_iff {tree : FileTree} {path : Path} :
    tree.isDirectory path = true ↔ tree.nodeAt path = .ok .directory := by
  unfold isDirectory
  split
  next hnode => simp [hnode]
  next hnone => simpa using hnone

theorem locate_of_isFile {tree : FileTree} {path : Path} (h : tree.isFile path = true) :
    tree.locate path = .ok (tree.destination path) ∧
      ∃ content, tree.node? (tree.destination path) = some (.file content) := by
  obtain ⟨content, hnode⟩ := isFile_iff.mp h
  exact ⟨(locate_of_nodeAt hnode).1, content, (locate_of_nodeAt hnode).2⟩

/-- A path that goes on from another one leads somewhere only if the other one does. -/
theorem exists_locate_of_below {tree : FileTree} {root path : Path} {steps : List Step}
    {location : Location} (hroot : root.components ≠ []) (hbelow : root.below? path = some steps)
    (hstep : ∃ step ∈ steps, step.component.isStep = true)
    (hlocation : tree.locate path = .ok location) : ∃ place, tree.locate root = .ok place := by
  have hcomponents : path.components = root.components ++ steps.map Step.component :=
    Path.map_component_of_stepsBelow? hbelow
  obtain ⟨step, hmem, hisStep⟩ := hstep
  have hway := Path.way_of_components hcomponents
  have hrootText : root.text ≠ "" := by
    rwa [ne_eq, ← Path.components_eq_nil_iff]
  have hstart := tree.startOf_of_components hroot hcomponents
  unfold locate at hlocation
  split at hlocation
  next => cases hlocation
  next hne =>
      obtain ⟨hpathStart, hpathWay⟩ := tree.route_eq hne
      obtain ⟨hrootStart, hrootWay⟩ := tree.route_eq hrootText
      have hwalk : (tree.route path).2.foldlM tree.enter (tree.route path).1 = .ok location :=
        hlocation
      have hall := enterAll_filter hwalk
      rw [hpathStart, hpathWay, hway, hstart, List.foldlM_append] at hall
      obtain ⟨place, hplace, hon⟩ := bind_eq_ok_iff.mp hall
      -- There is a step from the root on, which is made from a directory.
      have hdirectory : tree.node? place = some .directory := by
        cases hrest : ((steps.map Step.component).filter Component.isStep).map Component.text with
        | nil =>
            have hnone : ∀ s ∈ steps, s.component.isStep = false := by simpa using hrest
            rw [hnone step hmem] at hisStep
            cases hisStep
        | cons next others =>
            rw [hrest, List.foldlM_cons] at hon
            obtain ⟨after, hafter, -⟩ := bind_eq_ok_iff.mp hon
            exact ((enter_eq_ok_iff tree place next after).mp hafter).1
      refine ⟨place, ?_⟩
      unfold locate
      rw [if_neg hrootText]
      change (tree.route root).2.foldlM tree.enter (tree.route root).1 = .ok place
      refine enterAll_of_filter ?_ hdirectory
      rw [hrootStart, hrootWay]
      exact hplace

end FileTree

end Ambient
