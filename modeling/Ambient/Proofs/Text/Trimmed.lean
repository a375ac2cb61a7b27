import Ambient.Text.Blank
import Mathlib.Data.List.DropRight

namespace Ambient.Text

/-!
# Trimmed texts

Trimming leaves no blank at either end, and it leaves a text without such blanks as it is.
-/

/-- There is no blank at either end. -/
def IsTrimmed (cs : List Char) : Prop :=
  (∀ c ∈ cs.head?, isBlank c = false) ∧ ∀ c ∈ cs.getLast?, isBlank c = false

theorem IsTrimmed.append {front back : List Char} (hfront : IsTrimmed front)
    (hback : IsTrimmed back) : IsTrimmed (front ++ back) := by
  constructor
  · intro c hc
    rw [List.head?_append] at hc
    rcases Option.or_eq_some_iff.mp hc with hc | ⟨-, hc⟩
    · exact hfront.1 c hc
    · exact hback.1 c hc
  · intro c hc
    rw [List.getLast?_append] at hc
    rcases Option.or_eq_some_iff.mp hc with hc | ⟨-, hc⟩
    · exact hback.2 c hc
    · exact hfront.2 c hc

theorem trim_of_isTrimmed {cs : List Char} (h : IsTrimmed cs) : trim cs = cs := by
  have hstart : trimStart cs = cs := by
    cases cs with
    | nil => rfl
    | cons c cs => exact List.dropWhile_cons_of_neg (by simp [h.1 c rfl])
  rw [trim, hstart]
  refine List.rdropWhile_eq_self_iff.mpr fun hne => ?_
  rw [h.2 (cs.getLast hne) (List.getLast?_eq_some_getLast hne)]
  decide

end Ambient.Text
