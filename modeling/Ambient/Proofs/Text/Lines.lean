import Ambient.Text.Lines
import Mathlib.Logic.Function.Iterate

namespace Ambient.Text

/-!
# Lines of texts that are put together

Indenting a text indents each of its lines, and texts on lines of their own are
indented one by one.
-/

theorem splitOn_cons (separator c : Char) (cs : List Char) :
    (c :: cs).splitOn separator =
      if c = separator then [] :: cs.splitOn separator
      else (cs.splitOn separator).modifyHead (c :: ·) := by
  by_cases h : c = separator <;> simp [List.splitOn, List.splitOnP_cons_eq_if_modifyHead, h]

theorem exists_splitOn (separator : Char) (cs : List Char) :
    ∃ first rest, cs.splitOn separator = first :: rest :=
  List.exists_cons_of_ne_nil (List.splitOnP_ne_nil _ cs)

theorem not_mem_of_mem_splitOn {separator : Char} {cs piece : List Char}
    (h : piece ∈ cs.splitOn separator) : separator ∉ piece := by
  induction cs generalizing piece with
  | nil =>
      have hpiece : piece = [] := by simpa using h
      simp [hpiece]
  | cons c cs ih =>
      obtain ⟨first, rest, hcs⟩ := exists_splitOn separator cs
      rw [splitOn_cons, hcs] at h
      by_cases hc : c = separator
      · have hcases : piece = [] ∨ piece ∈ cs.splitOn separator := by simpa [hc, hcs] using h
        rcases hcases with rfl | hmem
        · simp
        · exact ih hmem
      · have hcases : piece = c :: first ∨ piece ∈ rest := by simpa [hc] using h
        rcases hcases with rfl | hmem
        · have hfirst : separator ∉ first := ih (by simp [hcs])
          simp [hfirst, Ne.symm hc]
        · exact ih (by simp [hcs, hmem])

/-- Behind its first line a text has the step in front of every line. -/
theorem flatMap_indentChar (step : List Char) {cs first : List Char} {rest : List (List Char)}
    (h : cs.splitOn '\n' = first :: rest) :
    cs.flatMap (indentChar step) = ['\n'].intercalate (first :: rest.map (step ++ ·)) := by
  induction cs generalizing first rest with
  | nil =>
      obtain ⟨rfl, rfl⟩ : first = [] ∧ rest = [] := by simpa [eq_comm] using h
      simp
  | cons c cs ih =>
      obtain ⟨next, others, hnext⟩ := exists_splitOn '\n' cs
      have hrest := ih hnext
      rw [splitOn_cons, hnext] at h
      by_cases hc : c = '\n'
      · obtain ⟨rfl, rfl⟩ : first = [] ∧ rest = next :: others := by simpa [hc, eq_comm] using h
        cases others <;> simp [hc, indentChar, hrest, List.intercalate_cons_cons]
      · obtain ⟨rfl, rfl⟩ : first = c :: next ∧ rest = others := by simpa [hc, eq_comm] using h
        cases rest <;> simp [hc, indentChar, hrest, List.intercalate_cons_cons]

theorem indent_eq_lines (step text : String) :
    indent step text = "\n".intercalate ((lines text).map (step ++ ·)) := by
  apply String.toList_inj.mp
  obtain ⟨first, rest, h⟩ := exists_splitOn '\n' text.toList
  have hlines : (lines text).map (String.toList ∘ (step ++ ·)) =
      (first :: rest).map (step.toList ++ ·) := by
    simp [lines, h, Function.comp_def]
  rw [toList_indent, flatMap_indentChar step.toList h, String.toList_intercalate, List.map_map,
    hlines]
  cases rest <;> simp [List.intercalate_cons_cons]

theorem lines_append_newline (a b : String) : lines (a ++ "\n" ++ b) = lines a ++ lines b := by
  have hchars : (a ++ "\n" ++ b).toList = a.toList ++ '\n' :: b.toList := by simp
  rw [lines, hchars, List.splitOn_append_cons_self, List.map_append]
  rfl

theorem lines_of_inline {text : String} (h : '\n' ∉ text.toList) : lines text = [text] := by
  rw [lines, List.splitOn_eq_singleton h]
  simp

/-- What is put in front of a text stands on its first line. -/
theorem lines_append_inline {lead : String} (h : '\n' ∉ lead.toList) (text : String) :
    lines (lead ++ text) = (lines text).modifyHead (lead ++ ·) := by
  have hsplit : ∀ cs : List Char, '\n' ∉ cs → ∀ rest : List Char,
      (cs ++ rest).splitOn '\n' = (rest.splitOn '\n').modifyHead (cs ++ ·) := by
    intro cs hcs rest
    induction cs with
    | nil =>
        obtain ⟨first, others, hrest⟩ := exists_splitOn '\n' rest
        simp [hrest]
    | cons c cs ih =>
        rw [List.mem_cons, not_or] at hcs
        rw [List.cons_append, splitOn_cons, if_neg (Ne.symm hcs.1), ih hcs.2,
          List.modifyHead_modifyHead]
        rfl
  obtain ⟨first, others, htext⟩ := exists_splitOn '\n' text.toList
  rw [lines, String.toList_append, hsplit lead.toList h, lines, htext]
  simp

/-- Each line of an indented text is indented. -/
theorem lines_indent {step : String} (h : '\n' ∉ step.toList) (text : String) :
    lines (indent step text) = (lines text).map (step ++ ·) := by
  have hchars : (indent step text).toList =
      ['\n'].intercalate ((text.toList.splitOn '\n').map (step.toList ++ ·)) := by
    rw [indent_eq_lines, String.toList_intercalate, lines]
    simp [Function.comp_def]
  have hnewline : ∀ line ∈ (text.toList.splitOn '\n').map (step.toList ++ ·), '\n' ∉ line := by
    intro line hline
    obtain ⟨piece, hpiece, rfl⟩ := List.mem_map.mp hline
    rw [List.mem_append, not_or]
    exact ⟨h, not_mem_of_mem_splitOn hpiece⟩
  rw [lines, hchars, List.splitOn_intercalate '\n' hnewline (by simp [List.splitOn_ne_nil]), lines,
    List.map_map, List.map_map]
  apply List.map_congr_left
  intro piece _
  simp

/-- A text that is indented twice has both steps in front of every line, the outer one first. -/
theorem indent_indent (outer : String) {inner : String} (h : '\n' ∉ inner.toList) (text : String) :
    indent outer (indent inner text) = indent (outer ++ inner) text := by
  have hsteps : (outer ++ ·) ∘ (inner ++ ·) = (outer ++ inner ++ ·) := by
    funext line
    exact String.append_assoc.symm
  rw [indent_eq_lines outer, lines_indent h, List.map_map, hsteps, ← indent_eq_lines]

theorem repeated_add (text : String) (first second : Nat) :
    repeated text (first + second) = repeated text first ++ repeated text second := by
  induction first with
  | zero => simp
  | succ first ih => rw [Nat.succ_add, repeated_succ, ih, repeated_succ, String.append_assoc]

theorem not_mem_repeated {c : Char} {text : String} (h : c ∉ text.toList) (count : Nat) :
    c ∉ (repeated text count).toList := by
  induction count with
  | zero => simp
  | succ count ih =>
      rw [repeated_succ, String.toList_append, List.mem_append, not_or]
      exact ⟨h, ih⟩

/-- A text behind the beginning of its first line, each further line one step further in. -/
def hang (step text : String) : String :=
  String.ofList (text.toList.flatMap (indentChar step.toList))

theorem indent_eq_hang (step text : String) : indent step text = step ++ hang step text := rfl

theorem hang_append (step a b : String) : hang step (a ++ b) = hang step a ++ hang step b := by
  simp [hang]

theorem hang_of_inline (step : String) {text : String} (h : '\n' ∉ text.toList) :
    hang step text = text := by
  rw [hang, flatMap_indentChar_of_no_newline h]
  exact String.ofList_toList

/-- What stands behind a text on its last line is not indented once more. -/
theorem indent_append_inline (step text : String) {tail : String} (h : '\n' ∉ tail.toList) :
    indent step (text ++ tail) = indent step text ++ tail := by
  rw [indent_eq_hang, indent_eq_hang, hang_append, hang_of_inline step h, String.append_assoc]

/-- Texts that are put together line by line are indented one by one. -/
theorem indent_intercalate (step : String) {texts : List String} (h : texts ≠ []) :
    indent step ("\n".intercalate texts) = "\n".intercalate (texts.map (indent step)) := by
  induction texts with
  | nil => exact absurd rfl h
  | cons text texts ih =>
      cases texts with
      | nil => simp
      | cons next texts =>
          rw [String.intercalate_cons_cons, indent_append_newline, ih (by simp)]
          simp [String.intercalate_cons_cons]

/-- What stands in a text stands one step further in where the text does. -/
theorem exists_stands_hang {step whole text inner : String} {depth : Nat}
    (hwhole : ∃ before after, whole = before ++ hang step text ++ after)
    (htext : ∃ before after, text = before ++ (hang step)^[depth] inner ++ after) :
    ∃ before after, whole = before ++ (hang step)^[depth + 1] inner ++ after := by
  obtain ⟨before, after, rfl⟩ := hwhole
  obtain ⟨inBefore, inAfter, rfl⟩ := htext
  refine ⟨before ++ hang step inBefore, hang step inAfter ++ after, ?_⟩
  rw [Function.iterate_succ_apply']
  simp only [hang_append, String.append_assoc]

/-- Texts that are put together show each of them. -/
theorem exists_intercalate (separator : String) {texts : List String} {text : String}
    (h : text ∈ texts) : ∃ before after, separator.intercalate texts = before ++ text ++ after := by
  induction texts with
  | nil => cases h
  | cons first rest ih =>
      cases rest with
      | nil =>
          obtain rfl : text = first := List.mem_singleton.mp h
          exact ⟨"", "", by simp⟩
      | cons next rest =>
          rw [String.intercalate_cons_cons]
          rcases List.mem_cons.mp h with rfl | hrest
          · exact ⟨"", separator ++ separator.intercalate (next :: rest),
              by simp [String.append_assoc]⟩
          · obtain ⟨before, after, hsplit⟩ := ih hrest
            exact ⟨first ++ separator ++ before, after, by rw [hsplit]; simp [String.append_assoc]⟩

end Ambient.Text
