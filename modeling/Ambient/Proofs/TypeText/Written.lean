import Ambient.TypeText

namespace Ambient.Written

/-!
# Texts that may fail

A text is put together from its parts in order. The first part that cannot be
written decides.
-/

variable {α β : Type}

@[simp] theorem ok_bind (a : α) (f : α → Written β) : (Except.ok a >>= f) = f a := rfl

@[simp] theorem error_bind (e : UnsupportedType) (f : α → Written β) :
    (Except.error e >>= f) = .error e := rfl

@[simp] theorem pure_eq_ok (a : α) : (pure a : Written α) = .ok a := rfl

theorem bind_eq_ok_iff {x : Written α} {f : α → Written β} {b : β} :
    (x >>= f) = .ok b ↔ ∃ a, x = .ok a ∧ f a = .ok b := by
  cases x with
  | ok a => simp
  | error e => simp

theorem bind_eq_error_iff {x : Written α} {f : α → Written β} {e : UnsupportedType} :
    (x >>= f) = .error e ↔ x = .error e ∨ ∃ a, x = .ok a ∧ f a = .error e := by
  cases x with
  | ok a => simp
  | error e => simp

/-- Something is written, and it is as it should be. -/
def Yields (x : Written α) (P : α → Prop) : Prop := ∃ a, x = .ok a ∧ P a

variable {P : α → Prop} {Q : β → Prop}

theorem yields_ok {a : α} (h : P a) : Yields (.ok a) P := ⟨a, rfl, h⟩

theorem yields_pure {a : α} (h : P a) : Yields (pure a) P := ⟨a, rfl, h⟩

theorem Yields.bind {x : Written α} {f : α → Written β} (hx : x.Yields P)
    (hf : ∀ a, P a → (f a).Yields Q) : (x >>= f).Yields Q := by
  obtain ⟨a, rfl, ha⟩ := hx
  exact hf a ha

/-- What is written, if anything is, is as it should be. -/
def Ensures (x : Written α) (P : α → Prop) : Prop := ∀ a, x = .ok a → P a

theorem ensures_ok {a : α} (h : P a) : Ensures (.ok a) P := by
  intro b hb
  cases hb
  exact h

theorem ensures_pure {a : α} (h : P a) : Ensures (pure a) P := ensures_ok h

theorem ensures_error {e : UnsupportedType} : Ensures (.error e) P := fun _ h => by cases h

theorem Ensures.bind {x : Written α} {f : α → Written β} (hx : x.Ensures P)
    (hf : ∀ a, P a → (f a).Ensures Q) : (x >>= f).Ensures Q := by
  intro b hb
  obtain ⟨a, ha, hfa⟩ := bind_eq_ok_iff.mp hb
  exact hf a (hx a ha) b hfa

/-- Something fails with the given kind, or not at all. -/
def FailsAs (x : Written α) (kind? : Option String) : Prop :=
  match x with
  | .ok _ => kind? = none
  | .error e => kind? = some e.kind

theorem failsAs_ok (a : α) : FailsAs (.ok a) none := rfl

theorem failsAs_error (kind : String) : FailsAs (.error ⟨kind⟩ : Written α) (some kind) := rfl

section

variable {x : Written α} {k l : Option String}

theorem FailsAs.bind {f : α → Written β} (hx : x.FailsAs k) (hf : ∀ a, (f a).FailsAs l) :
    (x >>= f).FailsAs (k.or l) := by
  cases x with
  | ok a =>
      have hk : k = none := hx
      rw [hk, Option.none_or]
      exact hf a
  | error e =>
      have hk : k = some e.kind := hx
      rw [hk, Option.some_or]
      rfl

theorem FailsAs.map (hx : x.FailsAs k) (g : α → β) : (x >>= fun a => pure (g a)).FailsAs k := by
  have hbind := hx.bind fun a => failsAs_ok (g a)
  rwa [Option.or_none] at hbind

theorem FailsAs.exists_ok_iff (hx : x.FailsAs k) : (∃ a, x = .ok a) ↔ k = none := by
  cases x with
  | ok a =>
      have hk : k = none := hx
      simp [hk]
  | error e =>
      have hk : k = some e.kind := hx
      simp [hk]

theorem FailsAs.eq_error_iff {e : UnsupportedType} (hx : x.FailsAs k) :
    x = .error e ↔ k = some e.kind := by
  cases x with
  | ok a =>
      have hk : k = none := hx
      simp [hk]
  | error found =>
      have hk : k = some found.kind := hx
      obtain ⟨kind⟩ := e
      obtain ⟨foundKind⟩ := found
      simp [hk]

end

end Ambient.Written
