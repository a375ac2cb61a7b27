import Ambient.Proofs.Run.Places
import Mathlib.Data.List.Basic

namespace Ambient

/-!
# Paths that are put together

The components of a joined path are those of its parts, and the pieces of a path tell
how it is written: a text without a slash directly behind another one is its names with
slashes between them.
-/

namespace Text

theorem exists_splitOn_concat (separator : Char) (cs : List Char) :
    ∃ front last, cs.splitOn separator = front ++ [last] := by
  obtain ⟨first, rest, h⟩ := exists_splitOn separator cs
  exact ⟨_, _, (List.dropLast_append_getLast (l := cs.splitOn separator) (by simp [h])).symm⟩

theorem splitOn_append_of_not_mem {separator : Char} {cs front last suffix}
    (h : List.splitOn separator cs = front ++ [last]) (hsuffix : separator ∉ suffix) :
    (cs ++ suffix).splitOn separator = front ++ [last ++ suffix] := by
  induction cs generalizing front last with
  | nil =>
      have hnil : [] ++ [[]] = front ++ [last] := by simpa using h
      obtain ⟨rfl, hlast⟩ := List.append_inj' hnil rfl
      cases hlast
      have hwhole : ([separator].intercalate [suffix]).splitOn separator = [suffix] :=
        List.splitOn_intercalate separator (by simpa using hsuffix) (by simp)
      simpa using hwhole
  | cons c cs ih =>
      obtain ⟨others, final, hcs⟩ := exists_splitOn_concat separator cs
      rw [splitOn_cons, hcs] at h
      rw [List.cons_append, splitOn_cons, ih hcs]
      by_cases hc : c = separator
      · rw [if_pos hc] at h ⊢
        have h : ([] :: others) ++ [final] = front ++ [last] := h
        obtain ⟨rfl, hlast⟩ := List.append_inj' h rfl
        cases hlast
        rfl
      · rw [if_neg hc] at h ⊢
        cases others with
        | nil =>
            obtain ⟨rfl, rfl⟩ : front = [] ∧ c :: final = last := by
              cases front <;> simp_all
            rfl
        | cons other others =>
            have h : ((c :: other) :: others) ++ [final] = front ++ [last] := h
            obtain ⟨rfl, hlast⟩ := List.append_inj' h rfl
            cases hlast
            rfl

end Text

namespace Path

theorem intercalate_pieces (path : Path) : "/".intercalate path.pieces = path.text := by
  apply String.toList_inj.mp
  simp [pieces, String.toList_intercalate, Function.comp_def, List.intercalate_splitOn]

theorem pieces_append_slash (front text : String) :
    (Path.mk (front ++ "/" ++ text)).pieces = (Path.mk front).pieces ++ (Path.mk text).pieces := by
  have htext : (front ++ "/" ++ text).toList = front.toList ++ '/' :: text.toList := by simp
  simp [pieces, htext, List.splitOn_append_cons_self]

theorem pieces_intercalate {names : List String} (hne : names ≠ [])
    (h : ∀ name ∈ names, '/' ∉ name.toList) :
    (Path.mk ("/".intercalate names)).pieces = names := by
  have hsplit : (['/'].intercalate (names.map String.toList)).splitOn '/' =
      names.map String.toList := by
    refine List.splitOn_intercalate '/' (fun cs hcs => ?_) (by simpa using hne)
    obtain ⟨name, hname, rfl⟩ := List.mem_map.mp hcs
    exact h name hname
  have htext : ("/".intercalate names).toList = ['/'].intercalate (names.map String.toList) := by
    simp [String.toList_intercalate]
  simp [pieces, htext, hsplit, Function.comp_def]

theorem exists_pieces (path : Path) : ∃ first rest, path.pieces = first :: rest := by
  obtain ⟨first, rest, h⟩ := Text.exists_splitOn '/' path.text.toList
  exact ⟨_, _, by rw [pieces, h, List.map_cons]⟩

theorem components_of_cons {path : Path} {first : String} {rest : List String}
    (h : path.pieces = first :: rest) (hne : path.text ≠ "") :
    path.components = leading first ++ rest.filterMap Component.ofPiece? := by
  cases rest with
  | cons next rest => exact components_of_pieces h
  | nil =>
      have hfirst : first ≠ "" := by
        rintro rfl
        have htext := path.intercalate_pieces
        rw [h] at htext
        exact hne (by simpa using htext.symm)
      unfold components steps leading
      rw [h]
      split
      next heq => cases heq
      next heq =>
          cases heq
          simp [stepsAfter]
      next hhere =>
          have hdot : first ≠ "." := fun hdot => hhere [] (by rw [hdot])
          rw [components_stepsAfter, if_neg hfirst, if_neg hdot]
          cases hpiece : Component.ofPiece? first <;> simp [hpiece]

theorem exists_leading (first : String) : ∃ component, leading first = [component] := by
  unfold leading Component.ofPiece?
  split
  · exact ⟨_, rfl⟩
  · split
    · exact ⟨_, rfl⟩
    · split <;> exact ⟨_, rfl⟩

theorem components_eq_nil_iff (path : Path) : path.components = [] ↔ path.text = "" := by
  constructor
  · intro h
    by_contra hne
    obtain ⟨first, rest, hpieces⟩ := path.exists_pieces
    obtain ⟨component, hleading⟩ := exists_leading first
    rw [components_of_cons hpieces hne, hleading] at h
    cases h
  · intro h
    rw [← mk_text path, h]
    decide

theorem isProperName_of_mem_components {path : Path} {name : String}
    (h : .name name ∈ path.components) : IsProperName name := by
  obtain ⟨step, hstep, hname⟩ := List.mem_map.mp h
  exact isProperName_of_mem_steps hstep hname

/-- A relative path that leads down only. -/
structure LeadsDown (text : String) : Prop where
  relative : text.toList.head? ≠ some '/'
  noDots : ∀ piece ∈ (Path.mk text).pieces, piece ≠ "." ∧ piece ≠ ".."

/-- The names on the way along a path. -/
def names (text : String) : List String := (Path.mk text).pieces.filter (· ≠ "")

theorem filterMap_ofPiece?_of_noDots {pieces : List String}
    (h : ∀ piece ∈ pieces, piece ≠ "." ∧ piece ≠ "..") :
    pieces.filterMap Component.ofPiece? = (pieces.filter (· ≠ "")).map .name := by
  induction pieces with
  | nil => rfl
  | cons piece pieces ih =>
      obtain ⟨⟨hhere, hup⟩, hrest⟩ := List.forall_mem_cons.mp h
      by_cases hempty : piece = ""
      · simp [hempty, Component.ofPiece?, ih hrest]
      · simp [Component.ofPiece?, hempty, hhere, hup, ih hrest]

theorem LeadsDown.first_ne {text first : String} {rest : List String} (h : LeadsDown text)
    (hne : text ≠ "") (hpieces : (Path.mk text).pieces = first :: rest) : first ≠ "" := by
  obtain ⟨c, cs, htext⟩ := List.exists_cons_of_ne_nil (l := text.toList) (by simpa using hne)
  have hc : c ≠ '/' := by
    rintro rfl
    exact h.relative (by simp [htext])
  rintro rfl
  obtain ⟨next, others, hcs⟩ := Text.exists_splitOn '/' cs
  simp [pieces, htext, Text.splitOn_cons, hc, hcs] at hpieces

theorem LeadsDown.components {text : String} (h : LeadsDown text) :
    (Path.mk text).components = (names text).map .name := by
  by_cases hempty : text = ""
  · subst hempty
    decide
  · obtain ⟨first, rest, hpieces⟩ := exists_pieces ⟨text⟩
    have hfirst := h.first_ne hempty hpieces
    have hdots := h.noDots
    rw [hpieces] at hdots
    have hleading : leading first = [first].filterMap Component.ofPiece? := by
      obtain ⟨hhere, hup⟩ := hdots first List.mem_cons_self
      simp [leading, hfirst, hhere, Component.ofPiece?, hup]
    rw [components_of_cons hpieces hempty, hleading, ← List.filterMap_append, names, hpieces]
    exact filterMap_ofPiece?_of_noDots hdots

theorem components_append_slash (front text : String) :
    (Path.mk (front ++ "/" ++ text)).components = (Path.mk (front ++ "/")).components ++
      (Path.mk text).pieces.filterMap Component.ofPiece? := by
  obtain ⟨first, rest, hfront⟩ := exists_pieces ⟨front⟩
  have hcomponents : ∀ text, (Path.mk (front ++ "/" ++ text)).components =
      leading first ++ (rest ++ (Path.mk text).pieces).filterMap Component.ofPiece? := by
    intro text
    refine components_of_cons (by rw [pieces_append_slash, hfront, List.cons_append]) ?_
    simp
  have hslash := hcomponents ""
  have hnone : (Path.mk "").pieces.filterMap Component.ofPiece? = [] := by decide
  rw [String.append_empty, List.filterMap_append, hnone, List.append_nil] at hslash
  rw [hcomponents, hslash, List.filterMap_append, List.append_assoc]

theorem components_slash {front : String} (hne : front ≠ "") :
    (Path.mk (front ++ "/")).components = (Path.mk front).components := by
  obtain ⟨first, rest, hfront⟩ := exists_pieces ⟨front⟩
  have hpieces : (Path.mk (front ++ "/" ++ "")).pieces = first :: (rest ++ [""]) := by
    rw [pieces_append_slash, hfront]
    rfl
  rw [String.append_empty] at hpieces
  rw [components_of_cons hpieces (by simp), components_of_cons hfront hne, List.filterMap_append]
  simp [Component.ofPiece?]

theorem relative_of_names {text : String} {names : List String}
    (h : (Path.mk text).components = names.map .name) : text.toList.head? ≠ some '/' := by
  intro hhead
  obtain ⟨cs, htext⟩ := List.head?_eq_some_iff.mp hhead
  obtain ⟨next, others, hcs⟩ := Text.exists_splitOn '/' cs
  have hpieces : (Path.mk text).pieces =
      "" :: String.ofList next :: others.map String.ofList := by
    simp [pieces, htext, Text.splitOn_cons, hcs]
  rw [components_of_pieces hpieces, leading, if_pos rfl] at h
  cases names <;> simp at h

/-- A path of names only says as much as its pieces do, each on its own. -/
theorem filterMap_pieces_of_names {text : String} {names : List String}
    (h : (Path.mk text).components = names.map .name) :
    (Path.mk text).pieces.filterMap Component.ofPiece? = names.map .name := by
  by_cases hempty : text = ""
  · rw [← h, hempty]
    decide
  · obtain ⟨first, rest, hpieces⟩ := exists_pieces ⟨text⟩
    rw [components_of_cons hpieces hempty] at h
    have hfirst : leading first = (Component.ofPiece? first).toList := by
      unfold leading at h ⊢
      split at h
      · cases names <;> simp at h
      · split at h
        · cases names <;> simp at h
        next hroot hhere => rw [if_neg hroot, if_neg hhere]
    rw [hpieces, ← h, hfirst]
    cases hpiece : Component.ofPiece? first <;> simp [hpiece]

/-- Behind a path stand the names of what is joined to it. -/
theorem components_join_of_names (base : Path) {text : String} {names : List String}
    (h : (Path.mk text).components = names.map .name) :
    (base.join text).components = base.components ++ names.map .name := by
  have hnames := filterMap_pieces_of_names h
  unfold join
  rw [if_neg (relative_of_names h)]
  by_cases hbase : base.text = ""
  · have hnone : base.components = [] := by
      rw [← mk_text base, hbase]
      decide
    rw [if_pos (by simp [hbase]), hbase, String.empty_append, h, hnone, List.nil_append]
  · cases hlast : base.text.toList.getLast? with
    | none => exact absurd (by simpa using hlast) hbase
    | some c =>
        by_cases hc : c = '/'
        · subst hc
          obtain ⟨front, hfront⟩ := List.getLast?_eq_some_iff.mp hlast
          have htext : base.text = String.ofList front ++ "/" := by
            apply String.toList_inj.mp
            simp [hfront]
          rw [if_pos (by simp), htext, components_append_slash, hnames, ← htext, mk_text]
        · rw [if_neg (by simpa using hc), components_append_slash, hnames, components_slash hbase,
            mk_text]

/-- Behind a path stand the names along what is joined to it. -/
theorem components_join (base : Path) {text : String} (h : LeadsDown text) :
    (base.join text).components = base.components ++ (names text).map .name :=
  base.components_join_of_names h.components

theorem exists_stepsBelow? {above below : List Component} {steps : List Step}
    (h : steps.map Step.component = above ++ below) :
    ∃ rest, stepsBelow? above steps = some rest ∧ rest.map Step.component = below := by
  induction above generalizing steps with
  | nil => exact ⟨steps, stepsBelow?_nil steps, h⟩
  | cons component above ih =>
      cases steps with
      | nil => cases h
      | cons step steps =>
          obtain ⟨hcomponent, hrest⟩ := List.cons.inj h
          obtain ⟨rest, hbelow, hrest⟩ := ih hrest
          exact ⟨rest, by simpa [stepsBelow?, hcomponent] using hbelow, hrest⟩

/-- A path without a slash directly behind another one. -/
def IsTidy (text : String) : Prop := ∀ piece ∈ (Path.mk text).pieces.dropLast, piece ≠ ""

instance (text : String) : Decidable (IsTidy text) :=
  inferInstanceAs (Decidable (∀ piece ∈ (Path.mk text).pieces.dropLast, piece ≠ ""))

theorem exists_pieces_concat (path : Path) : ∃ front last, path.pieces = front ++ [last] := by
  obtain ⟨front, last, h⟩ := Text.exists_splitOn_concat '/' path.text.toList
  exact ⟨_, _, by rw [pieces, h, List.map_append, List.map_singleton]⟩

theorem pieces_append_ending {text ending last : String} {front : List String}
    (h : (Path.mk text).pieces = front ++ [last]) (hending : '/' ∉ ending.toList) :
    (Path.mk (text ++ ending)).pieces = front ++ [last ++ ending] := by
  obtain ⟨others, final, hsplit⟩ := Text.exists_splitOn_concat '/' text.toList
  have hsame : others.map String.ofList ++ [String.ofList final] = front ++ [last] := by
    rw [← h, pieces, hsplit, List.map_append, List.map_singleton]
  obtain ⟨rfl, hlast⟩ := List.append_inj' hsame rfl
  cases hlast
  simp only [pieces, String.toList_append, Text.splitOn_append_of_not_mem hsplit hending,
    List.map_append, List.map_singleton]
  congr 2
  apply String.toList_inj.mp
  simp

/-- The names on the way along a path; the last one may be empty. -/
def sourceNames (text : String) : List String :=
  (Path.mk text).pieces.dropLast.filter (· ≠ "") ++ (Path.mk text).pieces.getLast?.toList

theorem LeadsDown.append_ending {text ending : String} (h : LeadsDown text)
    (hending : '/' ∉ ending.toList) (hlong : 2 < ending.length) : LeadsDown (text ++ ending) := by
  obtain ⟨front, last, hpieces⟩ := exists_pieces_concat ⟨text⟩
  constructor
  · intro hhead
    by_cases hempty : text = ""
    · rw [hempty, String.empty_append] at hhead
      exact hending (List.mem_of_head? hhead)
    · rw [String.toList_append, List.head?_append_of_ne_nil _ (by simpa using hempty)] at hhead
      exact h.relative hhead
  · intro piece hpiece
    have hdots := h.noDots
    rw [hpieces] at hdots
    rw [pieces_append_ending hpieces hending] at hpiece
    rcases List.mem_append.mp hpiece with hfront | hlast
    · exact hdots piece (List.mem_append_left _ hfront)
    · have hlength : 2 < piece.length := by
        rw [List.mem_singleton.mp hlast, String.length_append]
        omega
      constructor
      · rintro rfl
        exact absurd hlength (by decide)
      · rintro rfl
        exact absurd hlength (by decide)

theorem LeadsDown.eq_empty {text : String} (h : LeadsDown text) (hnames : names text = []) :
    text = "" := by
  by_cases hempty : text = ""
  · exact hempty
  · obtain ⟨first, rest, hpieces⟩ := exists_pieces ⟨text⟩
    have hfirst := h.first_ne hempty hpieces
    simp [names, hpieces, hfirst] at hnames

/-- The names behind those of a directory write a source back exactly if the directory
adds none and the source skips no piece. -/
theorem intercalate_eq_iff {directory source : String} (hdirectory : LeadsDown directory) :
    source = "/".intercalate (names directory ++ sourceNames source) ↔
      directory = "" ∧ IsTidy source := by
  obtain ⟨front, last, hpieces⟩ := exists_pieces_concat ⟨source⟩
  have hsource := intercalate_pieces ⟨source⟩
  have hnames : sourceNames source = front.filter (· ≠ "") ++ [last] := by
    simp [sourceNames, hpieces]
  have htidy : IsTidy source ↔ ∀ piece ∈ front, piece ≠ "" := by
    simp [IsTidy, hpieces]
  have hkept : (∀ piece ∈ front, piece ≠ "") → front.filter (· ≠ "") = front := fun hfront =>
    List.filter_eq_self.mpr fun piece hpiece => by simpa using hfront piece hpiece
  rw [htidy, hnames]
  constructor
  · intro h
    have hslash : ∀ piece ∈ names directory ++ (front.filter (· ≠ "") ++ [last]),
        '/' ∉ piece.toList := by
      intro piece hpiece
      rcases List.mem_append.mp hpiece with hmem | hmem
      · exact noSlash_of_mem_pieces (List.mem_of_mem_filter hmem)
      · have hsourcePiece : piece ∈ (Path.mk source).pieces := by
          rw [hpieces]
          rcases List.mem_append.mp hmem with hmem | hmem
          · exact List.mem_append_left _ (List.mem_of_mem_filter hmem)
          · exact List.mem_append_right _ hmem
        exact noSlash_of_mem_pieces hsourcePiece
    have hpieces' := pieces_intercalate (by simp) hslash
    rw [← h, hpieces, ← List.append_assoc] at hpieces'
    have hsplit := List.append_cancel_right hpieces'
    have hfront : ∀ piece ∈ front, piece ≠ "" := by
      intro piece hpiece
      rw [hsplit] at hpiece
      rcases List.mem_append.mp hpiece with hmem | hmem
      · simpa using (List.mem_filter.mp hmem).2
      · simpa using (List.mem_filter.mp hmem).2
    rw [hkept hfront] at hsplit
    exact ⟨hdirectory.eq_empty (List.self_eq_append_left.mp hsplit), hfront⟩
  · rintro ⟨rfl, hfront⟩
    have hnone : names "" = [] := by decide
    rw [hnone, hkept hfront, List.nil_append, ← hpieces, hsource]

end Path

end Ambient
