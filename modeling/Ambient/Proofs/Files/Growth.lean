import Ambient.Files.Tree
import Mathlib.Data.List.Basic

namespace Ambient.FileTree

/-!
# Trees that grow

Making directories and writing files takes nothing away: what was a directory stays
one, so a path that leads somewhere leads there ever after. Where it leads is
decided by its pieces alone, since there are no links.
-/

/-- From a location along one piece of a path, whatever is there. -/
def follow (location : Location) (piece : String) : Location :=
  if piece = "" ∨ piece = "." then location
  else if piece = ".." then location.dropLast
  else location ++ [piece]

/-- Where a path leads, if it leads anywhere. -/
def destination (tree : FileTree) (path : Path) : Location :=
  (tree.route path).2.foldl follow (tree.route path).1

theorem follow_of_isName {piece : String} (h : isName piece = true) (location : Location) :
    follow location piece = location ++ [piece] := by
  simp only [isName, Bool.and_eq_true, bne_iff_ne, ne_eq] at h
  simp [follow, h]

theorem foldl_follow_names {names : List String} (h : ∀ name ∈ names, isName name = true)
    (location : Location) : names.foldl follow location = location ++ names := by
  induction names generalizing location with
  | nil => simp
  | cons name names ih =>
      rw [List.foldl_cons, follow_of_isName (h name List.mem_cons_self),
        ih fun n hn => h n (List.mem_cons_of_mem name hn)]
      simp

/-- Names at the end of a path are the last steps of the way to where it leads. -/
theorem exists_destination_append (tree : FileTree) {front : List String} (hfront : front ≠ []) :
    ∃ base : Location, ∀ (path : Path) (names : List String), path.pieces = front ++ names →
      (∀ name ∈ names, isName name = true) → tree.destination path = base ++ names := by
  obtain ⟨first, others, rfl⟩ := List.exists_cons_of_ne_nil hfront
  -- An empty first piece stands for the root, any other one for the working directory.
  by_cases hfirst : first = ""
  · refine ⟨others.foldl follow [], fun path names hpieces hnames => ?_⟩
    have hroute : tree.route path = ([], others ++ names) := by
      simp [route, hpieces, hfirst]
    rw [destination, hroute, List.foldl_append, foldl_follow_names hnames]
  · refine ⟨(first :: others).foldl follow tree.workingDirectory,
      fun path names hpieces hnames => ?_⟩
    have hroute : tree.route path = (tree.workingDirectory, (first :: others) ++ names) := by
      simp [route, hpieces, hfirst]
    rw [destination, hroute, List.foldl_append, foldl_follow_names hnames]

theorem enter_eq_ok_iff (tree : FileTree) (location : Location) (piece : String)
    (found : Location) :
    tree.enter location piece = .ok found ↔ tree.node? location = some .directory ∧
      (isName piece = true → (tree.node? (location ++ [piece])).isSome = true) ∧
      found = follow location piece := by
  unfold enter follow
  cases hnode : tree.node? location with
  | none => simp
  | some node =>
      cases node with
      | file content => simp
      | sink => simp
      | directory =>
          by_cases hstay : piece = "" ∨ piece = "."
          · have hname : isName piece = false := by
              rcases hstay with rfl | rfl <;> rfl
            simpa [hstay, hname] using eq_comm
          · by_cases hup : piece = ".."
            · have hname : isName ".." = false := rfl
              subst hup
              simpa [hname] using eq_comm
            · have hname : isName piece = true := by
                simp only [not_or] at hstay
                simp [isName, hstay, hup]
              by_cases hthere : (tree.node? (location ++ [piece])).isSome = true
              · simp [hstay, hup, hname, hthere, eq_comm]
              · simp [hstay, hup, hname, hthere]

/-- Nothing is taken away, and directories stay what they are. -/
structure Grows (t u : FileTree) : Prop where
  workingDirectory : u.workingDirectory = t.workingDirectory
  isSome : ∀ location, (t.node? location).isSome = true → (u.node? location).isSome = true
  directory : ∀ location, t.node? location = some .directory →
    u.node? location = some .directory

/-- Whatever is somewhere stays as it is. -/
structure Extends (t u : FileTree) : Prop where
  workingDirectory : u.workingDirectory = t.workingDirectory
  kept : ∀ location node, t.node? location = some node → u.node? location = some node

theorem Extends.refl (t : FileTree) : Extends t t := ⟨rfl, fun _ _ h => h⟩

theorem Extends.trans {t u v : FileTree} (htu : Extends t u) (huv : Extends u v) : Extends t v :=
  ⟨huv.workingDirectory.trans htu.workingDirectory,
    fun location node h => huv.kept location node (htu.kept location node h)⟩

theorem Extends.grows {t u : FileTree} (h : Extends t u) : Grows t u where
  workingDirectory := h.workingDirectory
  isSome location hsome := by
    obtain ⟨node, hnode⟩ := Option.isSome_iff_exists.mp hsome
    simp [h.kept location node hnode]
  directory location hnode := h.kept location _ hnode

namespace Grows

variable {t u v : FileTree}

theorem trans (htu : Grows t u) (huv : Grows u v) : Grows t v where
  workingDirectory := huv.workingDirectory.trans htu.workingDirectory
  isSome location h := huv.isSome location (htu.isSome location h)
  directory location h := huv.directory location (htu.directory location h)

theorem route (h : Grows t u) (path : Path) : u.route path = t.route path := by
  unfold FileTree.route
  rw [h.workingDirectory]

theorem enter (h : Grows t u) {location : Location} {piece : String} {found : Location}
    (hfound : t.enter location piece = .ok found) : u.enter location piece = .ok found := by
  obtain ⟨hdirectory, hsome, hfollow⟩ := (enter_eq_ok_iff t location piece found).mp hfound
  exact (enter_eq_ok_iff u location piece found).mpr ⟨h.directory location hdirectory,
    fun hname => h.isSome _ (hsome hname), hfollow⟩

theorem enterAll (h : Grows t u) {pieces : List String} {location found : Location}
    (hfound : pieces.foldlM t.enter location = .ok found) :
    pieces.foldlM u.enter location = .ok found := by
  induction pieces generalizing location with
  | nil => exact hfound
  | cons piece pieces ih =>
      cases hnext : t.enter location piece with
      | error e => simp [List.foldlM_cons, hnext, bind, Except.bind] at hfound
      | ok next =>
          rw [List.foldlM_cons, hnext] at hfound
          rw [List.foldlM_cons, h.enter hnext]
          exact ih hfound

theorem locate (h : Grows t u) {path : Path} {location : Location}
    (hlocation : t.locate path = .ok location) : u.locate path = .ok location := by
  unfold FileTree.locate at hlocation ⊢
  split at hlocation
  · cases hlocation
  next hempty =>
      rw [if_neg hempty, h.route path]
      exact h.enterAll hlocation

theorem destination (h : Grows t u) (path : Path) : u.destination path = t.destination path := by
  unfold FileTree.destination
  rw [h.route path]

end Grows

theorem eq_foldl_follow_of_enterAll {tree : FileTree} {pieces : List String}
    {location found : Location} (h : pieces.foldlM tree.enter location = .ok found) :
    found = pieces.foldl follow location := by
  induction pieces generalizing location with
  | nil => exact (Except.ok.inj h).symm
  | cons piece pieces ih =>
      cases hnext : tree.enter location piece with
      | error e => simp [List.foldlM_cons, hnext, bind, Except.bind] at h
      | ok next =>
          rw [List.foldlM_cons, hnext] at h
          have hfollow := ((enter_eq_ok_iff tree location piece next).mp hnext).2.2
          rw [List.foldl_cons, ← hfollow]
          exact ih h

theorem eq_destination_of_locate {tree : FileTree} {path : Path} {location : Location}
    (h : tree.locate path = .ok location) : location = tree.destination path := by
  unfold locate at h
  split at h
  · cases h
  · exact eq_foldl_follow_of_enterAll h

theorem bind_eq_ok_iff {α β : Type} {x : Except FileError α} {f : α → Except FileError β} {b : β} :
    (x >>= f) = .ok b ↔ ∃ a, x = .ok a ∧ f a = .ok b := by
  cases x <;> simp [bind, Except.bind]

theorem throw_ne_ok {α : Type} {e : FileError} {a : α} :
    (throw e : Except FileError α) ≠ .ok a := by
  simp [throw, throwThe, MonadExceptOf.throw]

theorem locateParent_eq_ok {tree : FileTree} {path : Path} {directory : Location} {name : String}
    (h : tree.locateParent path = .ok (directory, name)) :
    path.text ≠ "" ∧ tree.node? directory = some .directory ∧
      (tree.route path).2.dropLast.foldlM tree.enter (tree.route path).1 = .ok directory ∧
      (tree.route path).2.getLast?.getD "" = name := by
  unfold locateParent at h
  by_cases hempty : path.text = ""
  · simp [hempty, bind_eq_ok_iff, throw_ne_ok] at h
  · rw [if_neg hempty] at h
    obtain ⟨found, hway, hrest⟩ := bind_eq_ok_iff.mp h
    obtain ⟨there, hstay, hparent⟩ := bind_eq_ok_iff.mp hrest
    obtain ⟨hnode, -, hthere⟩ := (enter_eq_ok_iff tree found "." there).mp hstay
    have hfound : there = found := hthere
    subst hfound
    cases hparent
    exact ⟨hempty, hnode, hway, rfl⟩

theorem locate_of_locateParent {tree u : FileTree} {path : Path} {directory : Location}
    {name : String} (h : tree.locateParent path = .ok (directory, name))
    (hname : isName name = true) (hgrows : Grows tree u)
    (hthere : (u.node? (directory ++ [name])).isSome = true) :
    u.locate path = .ok (directory ++ [name]) := by
  obtain ⟨hempty, hnode, hway, hlast⟩ := locateParent_eq_ok h
  have hpieces : (tree.route path).2.getLast? = some name := by
    cases hfound : (tree.route path).2.getLast? with
    | none =>
        rw [hfound] at hlast
        subst hlast
        exact absurd hname (by decide)
    | some found =>
        rw [hfound] at hlast
        exact congrArg some hlast
  have hstep : u.enter directory name = .ok (directory ++ [name]) :=
    (enter_eq_ok_iff u directory name _).mpr
      ⟨hgrows.directory directory hnode, fun _ => hthere, (follow_of_isName hname _).symm⟩
  have hroute := List.dropLast_append_getLast? name hpieces
  unfold locate
  rw [if_neg hempty, hgrows.route path]
  change (tree.route path).2.foldlM u.enter (tree.route path).1 = _
  rw [← hroute, List.foldlM_append, hgrows.enterAll hway]
  exact bind_eq_ok_iff.mpr ⟨directory, rfl, bind_eq_ok_iff.mpr ⟨_, hstep, rfl⟩⟩

theorem grows_put {tree : FileTree} {location : Location} {node : Node} (hne : location ≠ [])
    (h : tree.node? location = some .directory → node = .directory) :
    Grows tree (tree.put location node) where
  workingDirectory := rfl
  isSome other hother := by
    rw [node?_put tree location other node hne]
    split
    · rfl
    · exact hother
  directory other hother := by
    rw [node?_put tree location other node hne]
    split
    next heq => rw [h (heq ▸ hother)]
    next => exact hother

theorem extends_put {tree : FileTree} {location : Location} (node : Node) (hne : location ≠ [])
    (h : tree.node? location = none) : Extends tree (tree.put location node) where
  workingDirectory := rfl
  kept other found hfound := by
    have hother : other ≠ location := by
      rintro rfl
      rw [h] at hfound
      cases hfound
    rw [node?_put tree location other node hne, if_neg hother, hfound]

theorem makeDirectory_extends {tree u : FileTree} {path : Path}
    (h : tree.makeDirectory path = .ok u) : Extends tree u := by
  obtain ⟨⟨directory, name⟩, -, hmade⟩ := bind_eq_ok_iff.mp h
  dsimp only at hmade
  by_cases hfree : (!isName name || (tree.node? (directory ++ [name])).isSome) = true
  · rw [if_pos hfree] at hmade
    cases hmade
  · have hu : tree.put (directory ++ [name]) .directory = u := by
      simpa [hfree, pure, Except.pure] using hmade
    have hnone : tree.node? (directory ++ [name]) = none := by
      simp only [Bool.or_eq_true, not_or, Option.isSome_iff_ne_none, ne_eq, not_not] at hfree
      exact hfree.2
    rw [← hu]
    exact extends_put _ (by simp) hnone

/-- A path leads to a file with a text, or to a device that has taken it. -/
def Stores (tree : FileTree) (path : Path) (text : String) : Prop :=
  tree.nodeAt path = .ok (.file text.toUTF8) ∨ tree.nodeAt path = .ok .sink

theorem stores_iff (tree : FileTree) (path : Path) (text : String) :
    Stores tree path text ↔ ∃ location, tree.locate path = .ok location ∧
      (tree.node? location = some (.file text.toUTF8) ∨ tree.node? location = some .sink) := by
  unfold Stores nodeAt
  cases tree.locate path with
  | error e => simp [bind, Except.bind]
  | ok location =>
      cases hnode : tree.node? location <;>
        simp [hnode, bind, Except.bind, pure, Except.pure, throw, throwThe, MonadExceptOf.throw]

theorem Stores.extends {t u : FileTree} {path : Path} {text : String} (h : Stores t path text)
    (hextends : Extends t u) : Stores u path text := by
  obtain ⟨location, hlocation, hnode⟩ := (stores_iff t path text).mp h
  refine (stores_iff u path text).mpr ⟨location, hextends.grows.locate hlocation, ?_⟩
  exact hnode.imp (hextends.kept location _) (hextends.kept location _)

/-- A text that has been written is there, and nothing else has changed. -/
theorem write_eq_ok {tree u : FileTree} {path : Path} {text : String}
    (h : tree.write path text = .ok u) :
    Grows tree u ∧ Stores u path text ∧
      ∀ location, location ≠ tree.destination path → u.node? location = tree.node? location := by
  obtain ⟨⟨directory, name⟩, hparent, h⟩ := bind_eq_ok_iff.mp h
  cases hname : isName name with
  | false => simp [hname, bind_eq_ok_iff, throw_ne_ok] at h
  | true =>
      have hne : directory ++ [name] ≠ [] := by simp
      -- The file may not have been there before, so the way to it is followed afterwards.
      have hlocated : ∀ v : FileTree, Grows tree v →
          (v.node? (directory ++ [name])).isSome = true →
          v.locate path = .ok (directory ++ [name]) ∧
            directory ++ [name] = tree.destination path := by
        intro v hgrows hthere
        have hlocate := locate_of_locateParent hparent hname hgrows hthere
        exact ⟨hlocate, hgrows.destination path ▸ eq_destination_of_locate hlocate⟩
      have hput (hfile : tree.node? (directory ++ [name]) ≠ some .directory)
          (hu : u = tree.put (directory ++ [name]) (.file text.toUTF8)) :
          Grows tree u ∧ Stores u path text ∧ ∀ location, location ≠ tree.destination path →
            u.node? location = tree.node? location := by
        have hgrows : Grows tree u := hu ▸ grows_put hne fun hdirectory => absurd hdirectory hfile
        have hnode : u.node? (directory ++ [name]) = some (.file text.toUTF8) := by
          rw [hu, node?_put tree _ _ _ hne, if_pos rfl]
        obtain ⟨hlocate, hdestination⟩ := hlocated u hgrows (by rw [hnode]; rfl)
        refine ⟨hgrows, (stores_iff u path text).mpr ⟨_, hlocate, .inl hnode⟩, ?_⟩
        intro location hlocation
        rw [← hdestination] at hlocation
        rw [hu, node?_put tree _ _ _ hne, if_neg hlocation]
      cases hnode : tree.node? (directory ++ [name]) with
      | none =>
          refine hput (by simp [hnode]) ?_
          simpa [hname, hnode, pure, Except.pure, bind, Except.bind, eq_comm] using h
      | some node =>
          cases node with
          | directory => simp [hname, hnode, throw_ne_ok] at h
          | file content =>
              refine hput (by simp [hnode]) ?_
              simpa [hname, hnode, pure, Except.pure, bind, Except.bind, eq_comm] using h
          | sink =>
              -- A device takes the text and stays what it is.
              have hu : u = tree := by
                simpa [hname, hnode, pure, Except.pure, bind, Except.bind, eq_comm] using h
              subst hu
              have hgrows : Grows u u := (Extends.refl u).grows
              obtain ⟨hlocate, -⟩ := hlocated u hgrows (by rw [hnode]; rfl)
              exact ⟨hgrows, (stores_iff u path text).mpr ⟨_, hlocate, .inr hnode⟩,
                fun _ _ => rfl⟩

theorem Stores.write {t u : FileTree} {path other : Path} {text otherText : String}
    (h : Stores t path text) (hwrite : t.write other otherText = .ok u)
    (hne : t.destination path ≠ t.destination other) : Stores u path text := by
  obtain ⟨location, hlocation, hnode⟩ := (stores_iff t path text).mp h
  obtain ⟨hgrows, -, hkept⟩ := write_eq_ok hwrite
  have hlocation' := eq_destination_of_locate hlocation
  refine (stores_iff u path text).mpr ⟨location, hgrows.locate hlocation, ?_⟩
  rwa [hkept location (hlocation' ▸ hne)]

/-- An action that takes nothing away. -/
def Growing {α : Type} (action : StateM FileTree α) : Prop :=
  ∀ tree, Extends tree (action tree).2

namespace Growing

theorem pure {α : Type} (a : α) : Growing (pure a) := fun tree => Extends.refl tree

theorem bind {α β : Type} {x : StateM FileTree α} {f : α → StateM FileTree β} (hx : Growing x)
    (hf : ∀ a, Growing (f a)) : Growing (x >>= f) :=
  fun tree => (hx tree).trans (hf (x tree).1 (x tree).2)

theorem isDirectory (path : Path) :
    Growing (FileAccess.isDirectory path : StateM FileTree Bool) := fun tree => Extends.refl tree

theorem makeDirectory (path : Path) :
    Growing (FileAccess.makeDirectory path : StateM FileTree (Except FileError Unit)) := by
  intro tree
  change Extends tree (update (·.makeDirectory path) tree).2
  unfold update
  cases hmade : tree.makeDirectory path with
  | error e => simpa only [hmade] using Extends.refl tree
  | ok made => simpa only [hmade] using makeDirectory_extends hmade

theorem makeDirectoriesUp (steps : List Step) :
    Growing (FileAccess.makeDirectoriesUp steps : StateM FileTree (Except FileError Unit)) := by
  induction steps with
  | nil => exact Growing.pure _
  | cons step above ih =>
      have hthere (e : FileError) : Growing (show StateM FileTree (Except FileError Unit) from do
          if ← FileAccess.isDirectory (Path.ofSteps (step :: above).reverse)
          then return .ok () else return .error e) :=
        (isDirectory _).bind fun found => by cases found <;> exact Growing.pure _
      refine (makeDirectory _).bind fun made => ?_
      match made with
      | .ok () => exact Growing.pure _
      | .error .notFound =>
          refine ih.bind fun above => ?_
          match above with
          | .error e => exact Growing.pure _
          | .ok () =>
              refine (makeDirectory _).bind fun again => ?_
              match again with
              | .ok () => exact Growing.pure _
              | .error e => exact hthere e
      | .error .alreadyExists => exact hthere _
      | .error .notDirectory => exact hthere _
      | .error .isDirectory => exact hthere _
      | .error .notText => exact hthere _
      | .error (.other text) => exact hthere _

end Growing

end Ambient.FileTree
