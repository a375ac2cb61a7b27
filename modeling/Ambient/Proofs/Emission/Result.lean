import Ambient.Emission.Module
import Ambient.Proofs.TypeText.Written
import Mathlib.Data.List.Forall2

namespace Ambient

/-!
# Results of steps

What becomes of a step apart from its events, and what becomes of a list whose
parts may be left out.
-/

/-- What is in a related list is related to something in the other one. -/
theorem exists_of_mem_forall₂ {α β : Type} {R : α → β → Prop} {l : List α} {bs : List β}
    (h : List.Forall₂ R l bs) {b : β} (hb : b ∈ bs) : ∃ a ∈ l, R a b := by
  induction h with
  | nil => simp at hb
  | @cons first _ rest _ hfirst _ ih =>
      rcases List.mem_cons.mp hb with rfl | hb
      · exact ⟨first, List.mem_cons_self, hfirst⟩
      · obtain ⟨a, ha, hab⟩ := ih hb
        exact ⟨a, List.mem_cons_of_mem first ha, hab⟩

/-- What stands at a place of a list is related to what stands there in a related one. -/
theorem exists_getElem?_of_forall₂ {α β : Type} {R : α → β → Prop} {l : List α} {bs : List β}
    (h : List.Forall₂ R l bs) {i : Nat} {a : α} (ha : l[i]? = some a) :
    ∃ b, bs[i]? = some b ∧ R a b := by
  induction h generalizing i with
  | nil => simp at ha
  | @cons first b rest _ hfirst _ ih =>
      cases i with
      | zero =>
          obtain rfl : first = a := by simpa using ha
          exact ⟨b, rfl, hfirst⟩
      | succ i => exact ih (by simpa using ha)

namespace Written

variable {α β : Type}

theorem each_eq_ok_iff {f : α → Written β} {l : List α} {bs : List β} :
    each f l = .ok bs ↔ List.Forall₂ (fun a b => f a = .ok b) l bs := by
  induction l generalizing bs with
  | nil => simp [each, eq_comm]
  | cons a l ih =>
      rw [each, bind_eq_ok_iff, List.forall₂_cons_left_iff]
      constructor
      · rintro ⟨b, hb, h⟩
        obtain ⟨others, hothers, h⟩ := bind_eq_ok_iff.mp h
        cases h
        exact ⟨b, others, hb, ih.mp hothers, rfl⟩
      · rintro ⟨b, others, hb, hothers, rfl⟩
        exact ⟨b, hb, bind_eq_ok_iff.mpr ⟨others, ih.mpr hothers, rfl⟩⟩

theorem exists_of_mem_each {f : α → Written β} {l : List α} {bs : List β}
    (h : each f l = .ok bs) {b : β} (hb : b ∈ bs) : ∃ a ∈ l, f a = .ok b :=
  exists_of_mem_forall₂ (each_eq_ok_iff.mp h) hb

end Written

namespace Traced

variable {α β : Type}

@[simp] theorem bind_result (x : Traced α) (f : α → Traced β) :
    (x >>= f).result = x.result >>= fun a => (f a).result := by
  cases h : x.result with
  | ok a =>
      rw [bind_of_ok h]
      rfl
  | error e =>
      rw [bind_of_error h]
      rfl

@[simp] theorem lift_result (x : Written α) : (monadLift x : Traced α).result = x := rfl

@[simp] theorem note_result (event : Event) : (note event).result = .ok () := rfl

@[simp] theorem leaveOut_result (event : Event) :
    (leaveOut event : Traced (Option α)).result = .ok none := rfl

theorem keep_cons_result (f : α → Traced (Option β)) (a : α) (rest : List α) :
    (keep f (a :: rest)).result = do
      let b ← (f a).result
      let kept ← (keep f rest).result
      return b.toList ++ kept := by
  simp only [keep, bind_result]
  rfl

theorem keep_append_result (f : α → Traced (Option β)) (xs ys : List α) :
    (keep f (xs ++ ys)).result = do
      let kept ← (keep f xs).result
      let others ← (keep f ys).result
      return kept ++ others := by
  induction xs with
  | nil => cases h : (keep f ys).result <;> simp [keep, h]
  | cons x xs ih =>
      rw [List.cons_append, keep_cons_result, keep_cons_result, ih]
      cases (f x).result with
      | error e => rfl
      | ok b =>
          cases (keep f xs).result with
          | error e => rfl
          | ok kept => cases (keep f ys).result <;> simp

theorem all_cons_result (f : α → Traced (Option β)) (a : α) (rest : List α) :
    (all f (a :: rest)).result = (f a).result >>= fun found =>
      match found with
      | none => .ok none
      | some b => (all f rest).result >>= fun others => .ok (others.map (b :: ·)) := by
  rw [all, bind_result]
  congr
  funext found
  cases found with
  | none => rfl
  | some b =>
      rw [bind_result]
      rfl

theorem all_eq_some_iff {f : α → Traced (Option β)} {l : List α} {bs : List β} :
    (all f l).result = .ok (some bs) ↔
      List.Forall₂ (fun a b => (f a).result = .ok (some b)) l bs := by
  induction l generalizing bs with
  | nil => simp [all, eq_comm]
  | cons a l ih =>
      rw [all_cons_result, Written.bind_eq_ok_iff, List.forall₂_cons_left_iff]
      constructor
      · rintro ⟨found, hfound, h⟩
        cases found with
        | none => cases h
        | some b =>
            obtain ⟨others, hothers, h⟩ := Written.bind_eq_ok_iff.mp h
            obtain ⟨rest, rfl, rfl⟩ := Option.map_eq_some_iff.mp (Except.ok.inj h)
            exact ⟨b, rest, hfound, ih.mp hothers, rfl⟩
      · rintro ⟨b, rest, hb, hrest, rfl⟩
        refine ⟨some b, hb, Written.bind_eq_ok_iff.mpr ⟨some rest, ih.mpr hrest, rfl⟩⟩

/-- What is kept of a list whose parts all succeed. -/
theorem keep_eq_ok_iff (f : α → Traced (Option β)) (l : List α) (kept : List β) :
    (keep f l).result = .ok kept ↔ ∃ outcomes : List (Option β),
      l.map (fun a => (f a).result) = outcomes.map .ok ∧ kept = outcomes.filterMap id := by
  induction l generalizing kept with
  | nil =>
      constructor
      · intro h
        exact ⟨[], rfl, (Except.ok.inj h).symm⟩
      · rintro ⟨outcomes, hmap, rfl⟩
        rw [List.map_nil, eq_comm, List.map_eq_nil_iff] at hmap
        rw [hmap]
        rfl
  | cons a l ih =>
      rw [keep_cons_result]
      constructor
      · intro h
        obtain ⟨outcome, houtcome, h⟩ := Written.bind_eq_ok_iff.mp h
        obtain ⟨others, hothers, h⟩ := Written.bind_eq_ok_iff.mp h
        obtain ⟨outcomes, hmap, rfl⟩ := (ih others).mp hothers
        refine ⟨outcome :: outcomes, by simp [houtcome, hmap], ?_⟩
        rw [← Except.ok.inj h]
        cases outcome <;> simp
      · rintro ⟨outcomes, hmap, rfl⟩
        cases outcomes with
        | nil => simp at hmap
        | cons outcome outcomes =>
            have hmap : (f a).result = .ok outcome ∧
                l.map (fun a => (f a).result) = outcomes.map .ok := by simpa using hmap
            rw [hmap.1, (ih _).mpr ⟨outcomes, hmap.2, rfl⟩]
            cases outcome <;> simp

/-- The first part that fails decides. -/
theorem keep_eq_error_iff (f : α → Traced (Option β)) (l : List α) (e : UnsupportedType) :
    (keep f l).result = .error e ↔ ∃ before a after, l = before ++ a :: after ∧
      (∀ x ∈ before, ∃ outcome, (f x).result = .ok outcome) ∧ (f a).result = .error e := by
  induction l with
  | nil => simp [keep]
  | cons a l ih =>
      rw [keep_cons_result]
      constructor
      · intro h
        cases ha : (f a).result with
        | error e' =>
            rw [ha] at h
            exact ⟨[], a, l, rfl, by simp, ha.trans (by simpa using h)⟩
        | ok outcome =>
            have hrest : (keep f l).result = .error e := by
              rw [ha] at h
              cases hl : (keep f l).result with
              | error e' => rw [hl] at h; exact h
              | ok others => rw [hl] at h; cases h
            obtain ⟨before, x, after, rfl, hbefore, hx⟩ := ih.mp hrest
            refine ⟨a :: before, x, after, rfl, ?_, hx⟩
            exact List.forall_mem_cons.mpr ⟨⟨outcome, ha⟩, hbefore⟩
      · rintro ⟨before, x, after, hsplit, hbefore, hx⟩
        cases before with
        | nil =>
            obtain ⟨rfl, rfl⟩ := List.cons_eq_cons.mp hsplit
            rw [hx]
            rfl
        | cons first before =>
            obtain ⟨rfl, rfl⟩ := List.cons_eq_cons.mp hsplit
            obtain ⟨⟨outcome, hfirst⟩, hbefore⟩ := List.forall_mem_cons.mp hbefore
            rw [hfirst, ih.mpr ⟨before, x, after, rfl, hbefore, hx⟩]
            rfl

/-- What is kept comes from a part of the list. -/
theorem exists_of_mem_keep {f : α → Traced (Option β)} {l : List α} {kept : List β}
    (h : (keep f l).result = .ok kept) {b : β} (hb : b ∈ kept) :
    ∃ a ∈ l, (f a).result = .ok (some b) := by
  obtain ⟨outcomes, hmap, rfl⟩ := (keep_eq_ok_iff f l kept).mp h
  have hmem : some b ∈ outcomes := by simpa using hb
  have hresult : (.ok (some b) : Written (Option β)) ∈ l.map fun a => (f a).result := by
    rw [hmap]
    exact List.mem_map_of_mem hmem
  simpa using hresult

/-- Leaving out parts before they are looked at changes nothing, unless one of
them fails. -/
theorem keep_filter (f g : α → Traced (Option β)) (keeps : α → Bool) (l : List α)
    (hkept : ∀ a, keeps a = true → (f a).result = (g a).result)
    (hleft : ∀ a, keeps a = false → ∀ b, (f a).result = .ok b → b = none) :
    (keep f l).result = (keep g (l.filter keeps)).result ∨
      ∃ a ∈ l, keeps a = false ∧
        ∃ e, (f a).result = .error e ∧ (keep f l).result = .error e := by
  induction l with
  | nil => exact .inl rfl
  | cons a l ih =>
      cases hk : keeps a with
      | true =>
          rw [List.filter_cons_of_pos hk, keep_cons_result, keep_cons_result, hkept a hk]
          rcases ih with ih | ⟨x, hx, hleave, e, hfail, hall⟩
          · exact .inl (by rw [ih])
          · cases hg : (g a).result with
            | error e' => exact .inl rfl
            | ok b =>
                refine .inr ⟨x, List.mem_cons_of_mem a hx, hleave, e, hfail, ?_⟩
                rw [hall]
                rfl
      | false =>
          rw [List.filter_cons_of_neg (by simp [hk]), keep_cons_result]
          cases hf : (f a).result with
          | error e => exact .inr ⟨a, List.mem_cons_self, hk, e, hf, rfl⟩
          | ok b =>
              have hnone : b = none := hleft a hk b hf
              have hrest : (do
                  let b ← (.ok b : Written (Option β))
                  let kept ← (keep f l).result
                  return b.toList ++ kept) = (keep f l).result := by
                rw [hnone]
                cases (keep f l).result <;> rfl
              rw [hrest]
              rcases ih with ih | ⟨x, hx, hleave, e, hfail, hall⟩
              · exact .inl ih
              · exact .inr ⟨x, List.mem_cons_of_mem a hx, hleave, e, hfail, hall⟩

/-- The same where no part that is left out can fail. -/
theorem keep_filter_of_ok (f g : α → Traced (Option β)) (keeps : α → Bool) (l : List α)
    (hkept : ∀ a, keeps a = true → (f a).result = (g a).result)
    (hleft : ∀ a, keeps a = false → (f a).result = .ok none) :
    (keep f l).result = (keep g (l.filter keeps)).result := by
  have hnone : ∀ a, keeps a = false → ∀ b, (f a).result = .ok b → b = none := by
    intro a ha b hb
    rw [hleft a ha] at hb
    exact (Except.ok.inj hb).symm
  rcases keep_filter f g keeps l hkept hnone with h | ⟨a, _, ha, e, hfail, _⟩
  · exact h
  · rw [hleft a ha] at hfail
    cases hfail

end Traced

end Ambient
