import Ambient.Files.Tree
import Ambient.Proofs.Text.Lines
import Ambient.Run.Module

namespace Ambient

/-!
# The places of modules

A module stands below the module root in some directories under the name of its
file without its endings. Its id and the path of its document say the place and
nothing more: they are the same for two modules exactly if the places are.
-/

/-- A piece of a path that names something inside a directory. -/
structure IsProperName (name : String) : Prop where
  isName : FileTree.isName name = true
  noSlash : '/' ∉ name.toList

/-- Where a module stands below the module root. -/
structure ModulePlace where
  directories : List String
  stem : String
deriving DecidableEq, Repr

/-- The place of the module in the file that some steps lead to. -/
def modulePlace? (steps : List Step) : Option ModulePlace :=
  (stepNames? steps).bind fun names =>
    names.getLast?.map fun fileName => ⟨names.dropLast, moduleStem fileName⟩

namespace ModulePlace

def id (package : String) (place : ModulePlace) : String :=
  package ++ "/" ++ "/".intercalate (place.directories ++ [place.stem])

/-- The names on the way to the document of a module. -/
def outputNames (place : ModulePlace) : List String :=
  place.directories ++ [place.stem ++ ".d.ts"]

structure IsProper (place : ModulePlace) : Prop where
  directories : ∀ name ∈ place.directories, IsProperName name
  stem : '/' ∉ place.stem.toList

end ModulePlace

theorem moduleIdBelow_eq_ok_iff (package : String) (input : Path) (steps : List Step)
    (id : String) :
    moduleIdBelow package input steps = .ok id ↔
      ∃ place, modulePlace? steps = some place ∧ id = place.id package := by
  unfold moduleIdBelow modulePlace?
  cases stepNames? steps with
  | none => simp
  | some names =>
      cases hlast : names.getLast? with
      | none => simp [hlast]
      | some fileName => simp [hlast, ModulePlace.id, eq_comm]

namespace Component

theorem ofPiece?_eq_some_name {piece name : String} (h : ofPiece? piece = some (.name name)) :
    name = piece ∧ FileTree.isName piece = true := by
  unfold ofPiece? at h
  split at h
  · cases h
  · split at h
    · cases h
    · split at h
      · cases h
      next hempty hhere hup =>
          cases h
          exact ⟨rfl, by simp [FileTree.isName, hempty, hhere, hup]⟩

theorem ofPiece?_of_isName {piece : String} (h : FileTree.isName piece = true) :
    ofPiece? piece = some (.name piece) := by
  simp only [FileTree.isName, Bool.and_eq_true, bne_iff_ne, ne_eq] at h
  simp [ofPiece?, h]

theorem filterMap_ofPiece? {names : List String} (h : ∀ name ∈ names, IsProperName name) :
    names.filterMap ofPiece? = names.map .name := by
  induction names with
  | nil => rfl
  | cons name names ih =>
      have hname : ofPiece? name = some (.name name) :=
        ofPiece?_of_isName (h name List.mem_cons_self).isName
      rw [List.filterMap_cons_some hname, ih fun n hn => h n (List.mem_cons_of_mem name hn),
        List.map_cons]

end Component

namespace Path

theorem components_stepsAfter (gap : String) (pieces : List String) :
    (stepsAfter gap pieces).map Step.component = pieces.filterMap Component.ofPiece? := by
  induction pieces generalizing gap with
  | nil => rfl
  | cons piece rest ih =>
      cases h : Component.ofPiece? piece <;> simp [stepsAfter, h, ih]

/-- What the first piece of a path stands for, if something follows it. -/
def leading (first : String) : List Component :=
  if first = "" then [.root] else if first = "." then [.here]
  else (Component.ofPiece? first).toList

theorem components_of_pieces {path : Path} {first next : String} {rest : List String}
    (h : path.pieces = first :: next :: rest) :
    path.components = leading first ++ (next :: rest).filterMap Component.ofPiece? := by
  unfold components steps leading
  rw [h]
  split
  next heq =>
      cases heq
      simp [components_stepsAfter]
  next hroot heq =>
      cases heq
      simp [components_stepsAfter]
  next hroot hhere =>
      have hempty : first ≠ "" := fun hfirst => hroot next rest (by rw [hfirst])
      have hdot : first ≠ "." := fun hfirst => hhere (next :: rest) (by rw [hfirst])
      rw [components_stepsAfter, if_neg hempty, if_neg hdot]
      cases hfirst : Component.ofPiece? first <;> simp [List.filterMap_cons, hfirst]

theorem components_append_names (front : List String) (hfront : front ≠ []) :
    ∃ above, ∀ (path : Path) (names : List String), path.pieces = front ++ names →
      names ≠ [] → (∀ name ∈ names, IsProperName name) →
      path.components = above ++ names.map .name := by
  obtain ⟨first, others, rfl⟩ := List.exists_cons_of_ne_nil hfront
  refine ⟨leading first ++ others.filterMap Component.ofPiece?, fun path names h hne hnames => ?_⟩
  have hproper := Component.filterMap_ofPiece? hnames
  obtain ⟨next, rest, hrest⟩ := List.exists_cons_of_ne_nil (l := others ++ names) (by simp [hne])
  rw [List.cons_append, hrest] at h
  rw [components_of_pieces h, ← hrest, List.filterMap_append, hproper, List.append_assoc]

theorem noSlash_of_mem_pieces {path : Path} {piece : String} (h : piece ∈ path.pieces) :
    '/' ∉ piece.toList := by
  obtain ⟨cs, hcs, rfl⟩ := List.mem_map.mp h
  simpa using Text.not_mem_of_mem_splitOn hcs

theorem exists_piece_of_mem_stepsAfter {gap : String} {pieces : List String} {step : Step}
    (h : step ∈ stepsAfter gap pieces) :
    ∃ piece ∈ pieces, Component.ofPiece? piece = some step.component := by
  have hmem : step.component ∈ pieces.filterMap Component.ofPiece? := by
    rw [← components_stepsAfter gap pieces]
    exact List.mem_map_of_mem h
  simpa using hmem

theorem isProperName_of_mem_steps {path : Path} {step : Step} {name : String}
    (h : step ∈ path.steps) (hname : step.component = .name name) : IsProperName name := by
  -- The first step may be the root or the current directory, which no name stands for.
  have hpiece : ∃ piece ∈ path.pieces, Component.ofPiece? piece = some step.component := by
    unfold steps at h
    split at h
    next piece rest heq =>
        rcases List.mem_cons.mp h with rfl | h
        · cases hname
        · obtain ⟨found, hfound, hstep⟩ := exists_piece_of_mem_stepsAfter h
          exact ⟨found, by rw [heq]; exact List.mem_cons_of_mem _ hfound, hstep⟩
    next rest heq =>
        rcases List.mem_cons.mp h with rfl | h
        · cases hname
        · obtain ⟨found, hfound, hstep⟩ := exists_piece_of_mem_stepsAfter h
          exact ⟨found, by rw [heq]; exact List.mem_cons_of_mem _ hfound, hstep⟩
    next => exact exists_piece_of_mem_stepsAfter h
  obtain ⟨piece, hmem, hpiece⟩ := hpiece
  rw [hname] at hpiece
  obtain ⟨rfl, hisName⟩ := Component.ofPiece?_eq_some_name hpiece
  exact ⟨hisName, noSlash_of_mem_pieces hmem⟩

theorem mem_of_stepsBelow? {components : List Component} {steps rest : List Step}
    (h : stepsBelow? components steps = some rest) : ∀ step ∈ rest, step ∈ steps := by
  induction components generalizing steps with
  | nil =>
      rw [stepsBelow?_nil] at h
      cases h
      exact fun step hstep => hstep
  | cons component components ih =>
      cases steps with
      | nil => simp [stepsBelow?] at h
      | cons first steps =>
          by_cases hc : first.component = component
          · simp only [stepsBelow?, hc, if_true] at h
            exact fun step hstep => List.mem_cons_of_mem first (ih h step hstep)
          · simp [stepsBelow?, hc] at h

theorem mk_text (path : Path) : Path.mk path.text = path := rfl

/-- What a path is joined to does not hang on how the text behind it goes on. -/
theorem exists_text_join (base : Path) {start : String} (h : start ≠ "") :
    ∃ front : String, ∀ rest, (base.join (start ++ rest)).text = front ++ start ++ rest := by
  obtain ⟨c, cs, hcs⟩ : ∃ c cs, start.toList = c :: cs :=
    List.exists_cons_of_ne_nil (by simpa using h)
  have hhead : ∀ rest : String, (start ++ rest).toList.head? = some c := by
    intro rest
    simp [hcs]
  by_cases hroot : c = '/'
  · exact ⟨"", fun rest => by simp [join, hcs, hroot]⟩
  · by_cases hslash : base.text.toList.getLast?.all (· == '/') = true
    · exact ⟨base.text, fun rest => by
        simp only [join, hhead, Option.some.injEq, hroot, if_false, hslash, if_true,
          String.append_assoc]⟩
    · exact ⟨base.text ++ "/", fun rest => by
        simp only [join, hhead, Option.some.injEq, hroot, if_false, hslash, Bool.false_eq_true,
          String.append_assoc]⟩

theorem pieces_append_names {front : String} {names : List String}
    (hne : names ≠ []) (hnames : ∀ name ∈ names, IsProperName name) :
    (Path.mk (front ++ "/" ++ "/".intercalate names)).pieces =
      (Path.mk front).pieces ++ names := by
  have hsplit : (['/'].intercalate (names.map String.toList)).splitOn '/' =
      names.map String.toList := by
    refine List.splitOn_intercalate '/' (fun cs hcs => ?_) (by simpa using hne)
    obtain ⟨name, hname, rfl⟩ := List.mem_map.mp hcs
    exact (hnames name hname).noSlash
  have htext : (front ++ "/" ++ "/".intercalate names).toList =
      front.toList ++ '/' :: ['/'].intercalate (names.map String.toList) := by
    simp [String.toList_intercalate]
  simp [pieces, htext, List.splitOn_append_cons_self, hsplit, Function.comp_def]

end Path

theorem stepNames?_proper {steps : List Step} {names : List String}
    (hsteps : ∀ step ∈ steps, ∀ name, step.component = .name name → IsProperName name)
    (h : stepNames? steps = some names) : ∀ name ∈ names, IsProperName name := by
  induction steps generalizing names with
  | nil =>
      cases h
      simp
  | cons step steps ih =>
      have hrest := fun s hs => hsteps s (List.mem_cons_of_mem step hs)
      obtain ⟨gap, component⟩ := step
      cases component with
      | root => simp [stepNames?] at h
      | up => simp [stepNames?] at h
      | here => exact ih hrest (by simpa [stepNames?] using h)
      | name text =>
          obtain ⟨others, hothers, rfl⟩ : ∃ others, stepNames? steps = some others ∧
              text :: others = names := by simpa [stepNames?] using h
          intro name hname
          rcases List.mem_cons.mp hname with rfl | hname
          · exact hsteps _ List.mem_cons_self _ rfl
          · exact ih hrest hothers name hname

theorem mem_withoutEnding {ending text : String} {c : Char}
    (h : c ∈ (withoutEnding ending text).toList) : c ∈ text.toList := by
  unfold withoutEnding at h
  split at h
  · exact List.mem_of_mem_take (by simpa using h)
  · exact h

theorem ModulePlace.isProper_of_steps {steps : List Step} {place : ModulePlace}
    (hsteps : ∀ step ∈ steps, ∀ name, step.component = .name name → IsProperName name)
    (h : modulePlace? steps = some place) : place.IsProper := by
  obtain ⟨names, hnames, hplace⟩ := Option.bind_eq_some_iff.mp h
  obtain ⟨fileName, hlast, rfl⟩ := Option.map_eq_some_iff.mp hplace
  have hproper := stepNames?_proper hsteps hnames
  refine ⟨fun name hname => hproper name (names.dropLast_subset hname), fun hslash => ?_⟩
  exact (hproper fileName (List.mem_of_getLast? hlast)).noSlash
    (mem_withoutEnding (mem_withoutEnding hslash))

namespace ModulePlace

theorem outputNames_ne_nil (place : ModulePlace) : place.outputNames ≠ [] := by
  simp [ModulePlace.outputNames]

theorem IsProper.outputNames {place : ModulePlace} (h : place.IsProper) :
    ∀ name ∈ place.outputNames, IsProperName name := by
  intro name hname
  rcases List.mem_append.mp hname with hdirectory | hfile
  · exact h.directories name hdirectory
  · rw [List.mem_singleton.mp hfile]
    have hlong : ∀ short : String, short.length < 5 → place.stem ++ ".d.ts" ≠ short := by
      intro short hshort heq
      have hlength := congrArg String.length heq
      rw [String.length_append] at hlength
      have hending : ".d.ts".length = 5 := rfl
      omega
    refine ⟨?_, ?_⟩
    · simp [FileTree.isName, hlong "." (by decide), hlong ".." (by decide)]
    · simpa using h.stem

theorem intercalate_outputNames (place : ModulePlace) :
    "/".intercalate (place.directories ++ [place.stem]) ++ ".d.ts" =
      "/".intercalate place.outputNames := by
  unfold ModulePlace.outputNames
  induction place.directories with
  | nil => simp
  | cons directory directories ih =>
      cases directories with
      | nil => simp [String.intercalate_cons_cons, String.append_assoc]
      | cons next directories =>
          simp only [List.cons_append, String.intercalate_cons_cons, String.append_assoc] at ih ⊢
          rw [ih]

theorem outputNames_inj {place other : ModulePlace} (h : place.outputNames = other.outputNames) :
    place = other := by
  obtain ⟨hdirectories, hstem⟩ := List.append_inj' h rfl
  have hstem : place.stem = other.stem := by simpa using hstem
  cases place
  cases other
  simp_all

/-- The pieces of the path of a document: the names on its way come behind what the
package and the directory for documents say. -/
theorem exists_pieces_outputPath (typings : Path) (package : String) :
    ∃ front : List String, front ≠ [] ∧ ∀ place : ModulePlace, place.IsProper →
      (outputPath typings (place.id package)).pieces = front ++ place.outputNames := by
  have hstart : package ++ "/" ≠ "" := by simp
  obtain ⟨front, hfront⟩ := typings.exists_text_join hstart
  have htext : ∀ place : ModulePlace, outputPath typings (place.id package) =
      ⟨front ++ package ++ "/" ++ "/".intercalate place.outputNames⟩ := by
    intro place
    have hid : place.id package ++ ".d.ts" =
        package ++ "/" ++ "/".intercalate place.outputNames := by
      rw [← place.intercalate_outputNames, ModulePlace.id, String.append_assoc]
    have hjoin := hfront ("/".intercalate place.outputNames)
    rw [outputPath, hid, ← Path.mk_text (typings.join _), hjoin]
    simp only [String.append_assoc]
  refine ⟨(Path.mk (front ++ package)).pieces, by simp [Path.pieces], fun place hproper => ?_⟩
  rw [htext place, Path.pieces_append_names place.outputNames_ne_nil hproper.outputNames]

/-- Documents of one package are written to the same path exactly if their modules
stand at the same place. -/
theorem same_outputPath_iff (typings : Path) (package : String) {place other : ModulePlace}
    (hplace : place.IsProper) (hother : other.IsProper) :
    (outputPath typings (place.id package)).same (outputPath typings (other.id package)) = true ↔
      place = other := by
  obtain ⟨front, hfront, hpieces⟩ := exists_pieces_outputPath typings package
  obtain ⟨above, habove⟩ := Path.components_append_names front hfront
  have hcomponents : ∀ p : ModulePlace, p.IsProper →
      (outputPath typings (p.id package)).components = above ++ p.outputNames.map .name :=
    fun p hp => habove _ _ (hpieces p hp) p.outputNames_ne_nil hp.outputNames
  rw [Path.same, hcomponents place hplace, hcomponents other hother, beq_iff_eq]
  constructor
  · intro h
    have hnames := List.append_cancel_left h
    exact outputNames_inj ((List.map_inj_right fun _ _ => Component.name.inj).mp hnames)
  · rintro rfl
    rfl

end ModulePlace

end Ambient
