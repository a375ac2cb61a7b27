import Ambient.Declaration.Layout
import Ambient.Proofs.Text.Lines

namespace Ambient

/-!
# Texts within texts

A text stands within another one if it can be found in it, up to blanks that have come in
behind its newlines where it was indented. What is written for a part of a document stands
within what is written for the whole.
-/

namespace Text

/-- A text stands within another one, with some blanks behind each of its newlines. -/
def Within (inner outer : String) : Prop :=
  ∃ before step after, (∀ c ∈ step.toList, c = ' ') ∧ outer = before ++ hang step inner ++ after

theorem hang_empty (text : String) : hang "" text = text := by
  have h := indent_eq_hang "" text
  rwa [indent_empty, String.empty_append, eq_comm] at h

/-- Indenting an indented text is indenting it by both steps. -/
theorem hang_hang {step : String} (more : String) (hstep : '\n' ∉ step.toList) (text : String) :
    hang more (hang step text) = hang (more ++ step) text := by
  have h := indent_indent more hstep text
  rw [indent_eq_hang step, indent_eq_hang more, indent_eq_hang (more ++ step), hang_append,
    hang_of_inline more hstep, ← String.append_assoc] at h
  exact (String.append_right_inj _).mp h

namespace Within

variable {inner middle outer : String}

theorem refl (text : String) : Within text text :=
  ⟨"", "", "", by simp, by simp [hang_empty]⟩

theorem trans (h : Within inner middle) (h' : Within middle outer) : Within inner outer := by
  obtain ⟨before, step, after, hstep, rfl⟩ := h
  obtain ⟨before', step', after', hstep', rfl⟩ := h'
  have hnewline : '\n' ∉ step.toList := fun hmem => absurd (hstep _ hmem) (by decide)
  refine ⟨before' ++ hang step' before, step' ++ step, hang step' after ++ after', ?_, ?_⟩
  · intro c hc
    rw [String.toList_append, List.mem_append] at hc
    rcases hc with hc | hc
    · exact hstep' c hc
    · exact hstep c hc
  · rw [hang_append, hang_append, hang_hang step' hnewline]
    simp only [String.append_assoc]

theorem append_right (h : Within inner outer) (rest : String) : Within inner (outer ++ rest) := by
  obtain ⟨before, step, after, hstep, rfl⟩ := h
  exact ⟨before, step, after ++ rest, hstep, String.append_assoc⟩

theorem append_left (h : Within inner outer) (front : String) : Within inner (front ++ outer) := by
  obtain ⟨before, step, after, hstep, rfl⟩ := h
  exact ⟨front ++ before, step, after, hstep, by simp only [String.append_assoc]⟩

theorem indent {step : String} (hstep : ∀ c ∈ step.toList, c = ' ') (text : String) :
    Within text (Text.indent step text) :=
  ⟨step, step, "", hstep, by rw [indent_eq_hang, String.append_empty]⟩

theorem intercalate (separator : String) {text : String} {texts : List String}
    (h : text ∈ texts) : Within text (separator.intercalate texts) := by
  obtain ⟨before, after, hsplit⟩ := exists_intercalate separator h
  rw [hsplit]
  exact ((refl text).append_left before).append_right after

/-- Nothing but an empty text stands within an empty one, and it stands anywhere. -/
theorem of_empty (h : Within inner "") (text : String) : Within inner text := by
  obtain ⟨before, step, after, hstep, hempty⟩ := h
  have hinner : hang step inner = "" := by
    have hlength := congrArg String.length hempty
    simp only [String.length_append, String.length_empty] at hlength
    exact String.length_eq_zero_iff.mp (by omega)
  exact ⟨"", step, text, hstep, by rw [hinner, String.empty_append, String.empty_append]⟩

end Within

end Text

variable {inner : String} {texts : List String}

theorem within_commaList (h : inner ∈ texts) : Text.Within inner (commaList texts) :=
  .intercalate _ h

theorem within_generics (h : inner ∈ texts) : Text.Within inner (generics texts) := by
  rw [generics, if_neg (List.ne_nil_of_mem h)]
  exact ((within_commaList h).append_left _).append_right _

theorem within_braced (h : inner ∈ texts) : Text.Within inner (braced texts) := by
  rw [braced, if_neg (List.ne_nil_of_mem h)]
  exact ((within_commaList h).append_left _).append_right _

theorem within_enclose (own : Option Binding) (context : Binding) (text : String) :
    Text.Within text (enclose own context text) := by
  unfold enclose
  split
  · split
    · exact ((Text.Within.refl text).append_left _).append_right _
    · exact .refl text
  · exact .refl text

theorem within_block (head : String) {body : String} (h : Text.Within inner body) :
    Text.Within inner (block head body) := by
  unfold block
  split
  next hempty => exact (hempty ▸ h).of_empty _
  next => exact (h.append_left _).append_right _

theorem Layout.within_body {layout : Layout} (hstep : ∀ c ∈ layout.step.toList, c = ' ')
    (separator : String) (h : inner ∈ texts) : Text.Within inner (layout.body separator texts) :=
  (Text.Within.indent hstep inner).trans (.intercalate _ (List.mem_map_of_mem h))

end Ambient
