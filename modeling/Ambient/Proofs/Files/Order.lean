import Ambient.Run.Inputs
import Mathlib.Data.List.Lex
import Mathlib.Data.List.Sort
import Mathlib.Data.String.Basic

namespace Ambient

/-!
# The order of paths

Paths are in the order of their components, from the first one on. Paths with the same
components are the same in this order, so a list of paths that is put in order and freed
of repeats has each path once, and it is the only such list.
-/

namespace Component

theorem before_iff {a b : Component} :
    a.before b = true ↔ a.rank < b.rank ∨ a.rank = b.rank ∧ a.text < b.text := by
  simp [before]

theorem eq_of_rank_text {a b : Component} (hrank : a.rank = b.rank) (htext : a.text = b.text) :
    a = b := by
  cases a <;> cases b <;> simp_all [rank, text]

/-- Components are in one order: kinds first, then names. -/
instance isStrictTotalOrder : IsStrictTotalOrder Component (fun a b => a.before b = true) where
  irrefl a h := by
    rcases before_iff.mp h with h | ⟨-, h⟩
    · exact lt_irrefl _ h
    · exact lt_irrefl _ h
  trans a b c hab hbc := by
    rw [before_iff] at hab hbc ⊢
    rcases hab with hab | ⟨hrank, hab⟩
    · rcases hbc with hbc | ⟨hrank', -⟩
      · exact .inl (hab.trans hbc)
      · exact .inl (hrank' ▸ hab)
    · rcases hbc with hbc | ⟨hrank', hbc⟩
      · exact .inl (hrank ▸ hbc)
      · exact .inr ⟨hrank.trans hrank', hab.trans hbc⟩
  trichotomous a b hab hba := by
    rw [before_iff, not_or, not_and] at hab hba
    have hrank : a.rank = b.rank := by omega
    exact eq_of_rank_text hrank
      (le_antisymm (not_lt.mp (hba.2 hrank.symm)) (not_lt.mp (hab.2 hrank)))

end Component

namespace Path

/-- One list of components comes before another one. -/
abbrev ComponentsBefore : List Component → List Component → Prop :=
  List.Lex fun a b => a.before b = true

instance : IsStrictTotalOrder (List Component) ComponentsBefore :=
  { isStrictWeakOrder_of_isOrderConnected with }

/-- A path comes before another one, component by component. -/
def Before (a b : Path) : Prop := ComponentsBefore a.components b.components

instance (a b : Path) : Decidable (a.Before b) :=
  inferInstanceAs (Decidable (ComponentsBefore a.components b.components))

theorem same_iff {a b : Path} : a.same b = true ↔ a.components = b.components := beq_iff_eq

theorem componentsLe_iff {as bs : List Component} :
    componentsLe as bs = true ↔ as = bs ∨ ComponentsBefore as bs := by
  induction as generalizing bs with
  | nil => cases bs <;> simp [componentsLe]
  | cons a as ih =>
      cases bs with
      | nil => simp [componentsLe]
      | cons b bs =>
          by_cases hab : a = b
          · subst hab
            simp [componentsLe, ih, List.lex_cons_iff]
          · rw [componentsLe, if_neg hab]
            constructor
            · exact fun h => .inr (.rel h)
            · rintro (hsame | hbefore)
              · exact absurd (List.cons.inj hsame).1 hab
              · cases hbefore with
                | rel h => exact h
                | cons _ => exact absurd rfl hab

theorem le_iff {a b : Path} : a.le b = true ↔ a.same b = true ∨ a.Before b := by
  rw [le, componentsLe_iff, same_iff, Before]

theorem Before.trans {a b c : Path} (hab : a.Before b) (hbc : b.Before c) : a.Before c :=
  trans_of ComponentsBefore hab hbc

theorem Before.same_eq_false {a b : Path} (h : a.Before b) : a.same b = false := by
  rw [← Bool.not_eq_true, same_iff]
  exact ne_of_irrefl (show ComponentsBefore a.components b.components from h)

theorem le_trans (a b c : Path) (hab : a.le b = true) (hbc : b.le c = true) : a.le c = true := by
  rw [le_iff, same_iff] at hab hbc ⊢
  rcases hab with hab | hab
  · rw [Before, hab]
    exact hbc
  · rcases hbc with hbc | hbc
    · rw [Before, ← hbc]
      exact .inr hab
    · exact .inr (hab.trans hbc)

theorem le_total (a b : Path) : (a.le b || b.le a) = true := by
  rw [Bool.or_eq_true, le_iff, le_iff, same_iff, same_iff]
  rcases trichotomous_of ComponentsBefore a.components b.components with h | h | h
  · exact .inl (.inr h)
  · exact .inl (.inl h)
  · exact .inr (.inr h)

/-- A path is in a list, perhaps in another spelling. -/
def IsAmong (path : Path) (paths : List Path) : Prop := ∃ found ∈ paths, found.same path = true

theorem isAmong_iff {path : Path} {paths : List Path} :
    path.IsAmong paths ↔ path.components ∈ paths.map components := by
  simp [IsAmong, same_iff]

theorem isAmong_cons {path first : Path} {paths : List Path} :
    path.IsAmong (first :: paths) ↔ first.same path = true ∨ path.IsAmong paths := by
  simp [IsAmong]

theorem isAmong_append {path : Path} {paths others : List Path} :
    path.IsAmong (paths ++ others) ↔ path.IsAmong paths ∨ path.IsAmong others := by
  simp [isAmong_iff]

theorem isAmong_of_mem {path : Path} {paths : List Path} (h : path ∈ paths) : path.IsAmong paths :=
  ⟨path, h, same_iff.mpr rfl⟩

/-- Lists in order that have the same paths are the same. -/
theorem components_eq_of_isAmong_iff {paths others : List Path} (hpaths : paths.Pairwise Before)
    (hothers : others.Pairwise Before)
    (h : ∀ path : Path, path.IsAmong paths ↔ path.IsAmong others) :
    paths.map components = others.map components := by
  refine List.Pairwise.eq_of_mem_iff (List.pairwise_map.mpr hpaths) (List.pairwise_map.mpr hothers)
    fun cs => ?_
  constructor
  · intro hcs
    obtain ⟨path, hpath, rfl⟩ := List.mem_map.mp hcs
    exact isAmong_iff.mp ((h path).mp (isAmong_of_mem hpath))
  · intro hcs
    obtain ⟨path, hpath, rfl⟩ := List.mem_map.mp hcs
    exact isAmong_iff.mp ((h path).mpr (isAmong_of_mem hpath))

end Path

theorem isAmong_dropRepeatsAfter (path last : Path) (paths : List Path) :
    path.IsAmong (last :: dropRepeatsAfter last paths) ↔ path.IsAmong (last :: paths) := by
  induction paths generalizing last with
  | nil => rfl
  | cons next paths ih =>
      rw [dropRepeatsAfter]
      by_cases hsame : last.same next = true
      · have hkept : next.same path = true ↔ last.same path = true := by
          rw [Path.same_iff, Path.same_iff, Path.same_iff.mp hsame]
        rw [if_pos hsame, ih, Path.isAmong_cons, Path.isAmong_cons, Path.isAmong_cons, hkept,
          ← or_assoc, or_self]
      · rw [if_neg hsame, Path.isAmong_cons, ih, ← Path.isAmong_cons]

theorem pairwise_dropRepeatsAfter {last : Path} {paths : List Path}
    (h : (last :: paths).Pairwise fun a b => a.le b = true) :
    (last :: dropRepeatsAfter last paths).Pairwise Path.Before := by
  induction paths generalizing last with
  | nil => exact List.pairwise_singleton _ _
  | cons next paths ih =>
      obtain ⟨hlast, hrest⟩ := List.pairwise_cons.mp h
      rw [dropRepeatsAfter]
      by_cases hsame : last.same next = true
      · rw [if_pos hsame]
        exact ih (h.sublist (.cons_cons last (List.sublist_cons_self next paths)))
      · rw [if_neg hsame]
        have hbefore : last.Before next :=
          (Path.le_iff.mp (hlast next List.mem_cons_self)).resolve_left hsame
        refine List.pairwise_cons.mpr ⟨fun path hpath => ?_, ih hrest⟩
        rcases List.mem_cons.mp hpath with rfl | hpath
        · exact hbefore
        · exact hbefore.trans (List.rel_of_pairwise_cons (ih hrest) hpath)

/-- Paths that are put in order are strictly increasing. -/
theorem pairwise_inputOrder (paths : List Path) : (inputOrder paths).Pairwise Path.Before := by
  have hsorted : (paths.mergeSort Path.le).Pairwise fun a b => a.le b = true :=
    List.pairwise_mergeSort Path.le_trans Path.le_total paths
  unfold inputOrder
  cases hpaths : paths.mergeSort Path.le with
  | nil => exact .nil
  | cons first rest => exact pairwise_dropRepeatsAfter (hpaths ▸ hsorted)

theorem isAmong_inputOrder (path : Path) (paths : List Path) :
    path.IsAmong (inputOrder paths) ↔ path.IsAmong paths := by
  have hmem : path.IsAmong (paths.mergeSort Path.le) ↔ path.IsAmong paths := by
    simp [Path.IsAmong]
  rw [← hmem, inputOrder]
  cases paths.mergeSort Path.le with
  | nil => rfl
  | cons first rest => exact isAmong_dropRepeatsAfter path first rest

theorem dropRepeatsAfter_of_pairwise {last : Path} {paths : List Path}
    (h : (last :: paths).Pairwise Path.Before) : dropRepeatsAfter last paths = paths := by
  induction paths generalizing last with
  | nil => rfl
  | cons next paths ih =>
      obtain ⟨hlast, hrest⟩ := List.pairwise_cons.mp h
      have hother : last.same next = false := (hlast next List.mem_cons_self).same_eq_false
      simp only [dropRepeatsAfter, hother, Bool.false_eq_true, if_false, ih hrest]

/-- Paths that are strictly increasing stay as they are. -/
theorem inputOrder_of_pairwise {paths : List Path} (h : paths.Pairwise Path.Before) :
    inputOrder paths = paths := by
  have hsorted : paths.Pairwise fun a b => a.le b = true :=
    h.imp fun hbefore => Path.le_iff.mpr (.inr hbefore)
  rw [inputOrder, List.mergeSort_of_pairwise hsorted]
  cases paths with
  | nil => rfl
  | cons first rest => exact congrArg (first :: ·) (dropRepeatsAfter_of_pairwise h)

end Ambient
