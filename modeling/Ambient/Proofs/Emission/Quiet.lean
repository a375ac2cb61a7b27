import Ambient.Proofs.Emission.Parameters

namespace Ambient

/-!
# Steps that note nothing

What holds of the outcome of a step that notes nothing at the level of `debug` or `warn`.
Leaving something out is always noted, so a step that notes nothing has left nothing out.
-/

namespace Traced

variable {α β : Type}

/-- Nothing is noted at the level of `debug` or `warn`. -/
def IsQuiet (x : Traced α) : Prop :=
  ∀ event ∈ x.events, event.severity ≠ .debug ∧ event.severity ≠ .warn

/-- What a step yields is as it should be, if it has noted nothing. -/
def WhenQuiet (x : Traced α) (P : α → Prop) : Prop :=
  ∀ a, x.result = .ok a → x.IsQuiet → P a

/-- A step that notes nothing yields something, and it is as it should be. -/
def LosesNothing (x : Traced (Option α)) (P : α → Prop) : Prop :=
  x.WhenQuiet fun found => ∃ a, found = some a ∧ P a

variable {P : α → Prop} {Q : β → Prop}

theorem isQuiet_bind_iff {x : Traced α} {a : α} (h : x.result = .ok a) (f : α → Traced β) :
    (x >>= f).IsQuiet ↔ x.IsQuiet ∧ (f a).IsQuiet := by
  rw [bind_of_ok h]
  simp only [IsQuiet, List.mem_append]
  constructor
  · exact fun hall => ⟨fun event hevent => hall event (.inl hevent),
      fun event hevent => hall event (.inr hevent)⟩
  · rintro ⟨hfirst, hrest⟩ event (hevent | hevent)
    · exact hfirst event hevent
    · exact hrest event hevent

theorem whenQuiet_pure {a : α} (h : P a) : (pure a : Traced α).WhenQuiet P := by
  intro b hb _
  cases hb
  exact h

theorem whenQuiet_leaveOut {event : Event} (h : event.severity ≠ .trace)
    {P : Option α → Prop} : (leaveOut event).WhenQuiet P := by
  intro found _ hquiet
  have hevent := hquiet event (by simp [leaveOut])
  cases hseverity : event.severity <;> simp_all

theorem WhenQuiet.bind {x : Traced α} {f : α → Traced β} (hx : x.WhenQuiet P)
    (hf : ∀ a, P a → (f a).WhenQuiet Q) : (x >>= f).WhenQuiet Q := by
  intro b hb hquiet
  obtain ⟨a, ha, hb⟩ := Written.bind_eq_ok_iff.mp (bind_result x f ▸ hb)
  obtain ⟨hfirst, hrest⟩ := (isQuiet_bind_iff ha f).mp hquiet
  exact hf a (hx a ha hfirst) b hb hrest

theorem whenQuiet_lift_bind {x : Written α} {f : α → Traced β}
    (hf : ∀ a, x = .ok a → (f a).WhenQuiet Q) : ((monadLift x : Traced α) >>= f).WhenQuiet Q :=
  WhenQuiet.bind (fun _ ha _ => ha) hf

theorem LosesNothing.bind {x : Traced (Option α)} {f : Option α → Traced β}
    (hx : x.LosesNothing P) (hf : ∀ a, P a → (f (some a)).WhenQuiet Q) : (x >>= f).WhenQuiet Q := by
  refine WhenQuiet.bind hx fun found hfound => ?_
  obtain ⟨a, rfl, ha⟩ := hfound
  exact hf a ha

theorem losesNothing_pure {a : α} (h : P a) : (pure (some a) : Traced (Option α)).LosesNothing P :=
  whenQuiet_pure ⟨a, rfl, h⟩

theorem LosesNothing.imp {x : Traced (Option α)} {R : α → Prop} (hx : x.LosesNothing P)
    (h : ∀ a, x.result = .ok (some a) → R a) : x.LosesNothing R := by
  intro found hfound hquiet
  obtain ⟨a, rfl, _⟩ := hx found hfound hquiet
  exact ⟨a, rfl, h a hfound⟩

theorem whenQuiet_keep {f : α → Traced (Option β)} {R : α → β → Prop}
    (h : ∀ a, (f a).LosesNothing (R a)) (l : List α) :
    (keep f l).WhenQuiet fun kept => List.Forall₂ R l kept := by
  induction l with
  | nil => exact whenQuiet_pure .nil
  | cons a l ih =>
      refine (h a).bind fun b hb => WhenQuiet.bind ih fun kept hkept => whenQuiet_pure ?_
      exact .cons hb hkept

theorem losesNothing_all {f : α → Traced (Option β)} (h : ∀ a, (f a).LosesNothing fun _ => True)
    (l : List α) : (all f l).LosesNothing fun _ => True := by
  induction l with
  | nil => exact losesNothing_pure trivial
  | cons a l ih =>
      refine (h a).bind fun b _ => ih.bind fun others _ => ?_
      exact losesNothing_pure trivial

end Traced

namespace Options

/-- A name whose exclusion is not noted is not excluded. -/
theorem whenQuiet_unless_excluded {α : Type} {options : Options} {name : String}
    {next : Traced (Option α)} {Q : Option α → Prop} (h : next.WhenQuiet Q) :
    (options.isExcluded name >>= fun excluded =>
      if excluded = true then pure none else next).WhenQuiet Q := by
  have hkept : (options.isExcluded name).WhenQuiet (· = false) := by
    unfold isExcluded
    split
    · intro excluded _ hquiet
      have hevent := hquiet (.excluded name) (by simp [Traced.note, bind, Traced.andThen])
      simp [Event.severity] at hevent
    · exact Traced.whenQuiet_pure rfl
  refine hkept.bind fun excluded hexcluded => ?_
  rw [hexcluded, if_neg (by simp)]
  exact h

end Options

end Ambient
