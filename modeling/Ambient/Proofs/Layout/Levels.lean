import Ambient.Declaration.Layout
import Ambient.Proofs.Text.Lines

namespace Ambient

/-!
# Levels of indentation

Steps add up. A declaration at a level is written as it is at a lower one, with the steps
between the two in front of each of its lines.
-/

open Text

theorem Declaration.render_add {layout : Layout} (h : '\n' ∉ layout.step.toList)
    (declaration : Declaration) (level further : Nat) :
    declaration.render layout (level + further) =
      indent (repeated layout.step further) (declaration.render layout level) := by
  rw [render, render, indent_indent _ (not_mem_repeated h level), ← repeated_add, Nat.add_comm]

/-- Indentation composes. A text that is indented twice is indented once by both steps, texts on
lines of their own are indented one by one, and a step stands in front of each line, blank ones
included. So a declaration further in has the further steps in front of each of its lines. -/
theorem Layout.indentation_composes {step : String} (hstep : '\n' ∉ step.toList)
    {layout : Layout} (hlayout : '\n' ∉ layout.step.toList) :
    (∀ outer text, indent outer (indent step text) = indent (outer ++ step) text) ∧
    (∀ (first : String) (rest : List String), indent step ("\n".intercalate (first :: rest)) =
      "\n".intercalate ((first :: rest).map (indent step))) ∧
    (∀ text, (lines (indent step text)).length = (lines text).length ∧
      lines (indent step text) = (lines text).map (step ++ ·)) ∧
    ∀ (declaration : Declaration) (level further : Nat),
      declaration.render layout (level + further) = "\n".intercalate
        ((lines (declaration.render layout level)).map (repeated layout.step further ++ ·)) := by
  refine ⟨fun outer text => indent_indent outer hstep text,
    fun first rest => indent_intercalate step (by simp), fun text => ?_,
    fun declaration level further => ?_⟩
  · have hlines := lines_indent hstep text
    exact ⟨by rw [hlines, List.length_map], hlines⟩
  · rw [Declaration.render_add hlayout, indent_eq_lines]

/-- The empty line above a comment is indented as well. -/
theorem Layout.indentation_composes_comment :
    '\n' ∉ "\t".toList ∧ '\n' ∉ ({} : Layout).step.toList ∧
    indent " " (indent "\t" "a\n\n") = indent " \t" "a\n\n" ∧
    (Declaration.mk [⟨.line, " note"⟩] (.interface "A" [⟨[], .interfaceProperty "x" "any" false false⟩]
      [] [])).render {} (1 + 1) =
        "    \n    // note\n    export interface A \x7b\n      x: any;\n    \x7d" := by
  have h := @indentation_composes "\t" (by decide) {} (by decide)
  refine ⟨by decide, by decide, h.1 " " "a\n\n", ?_⟩
  rw [h.2.2.2]
  decide

end Ambient
