namespace Ambient.Text

/-!
# Lines and indentation

A text is cut into lines at each newline. Indenting puts a step in front of
every line, blank ones included, so a text that is already indented can be
indented again by the text around it.
-/

/-- One character as it stands in a text indented by `step`. -/
def indentChar (step : List Char) (c : Char) : List Char :=
  if c = '\n' then c :: step else [c]

/-- `text` with `step` in front of every line. -/
def indent (step text : String) : String :=
  step ++ String.ofList (text.toList.flatMap (indentChar step.toList))

/-- `text` repeated `count` times. -/
def repeated (text : String) : Nat → String
  | 0 => ""
  | count + 1 => text ++ repeated text count

/-- The lines of a text. There is always at least one. -/
def lines (text : String) : List String :=
  (text.toList.splitOn '\n').map String.ofList

theorem indentChar_nil (c : Char) : indentChar [] c = [c] := by
  by_cases h : c = '\n' <;> simp [indentChar, h]

theorem flatMap_indentChar_nil (cs : List Char) : cs.flatMap (indentChar []) = cs := by
  induction cs with
  | nil => rfl
  | cons c cs ih => simp [indentChar_nil, ih]

theorem flatMap_indentChar_of_no_newline {step cs : List Char} (h : '\n' ∉ cs) :
    cs.flatMap (indentChar step) = cs := by
  induction cs with
  | nil => rfl
  | cons c cs ih =>
    simp only [List.mem_cons, not_or] at h
    have hc : indentChar step c = [c] := if_neg (Ne.symm h.1)
    rw [List.flatMap_cons, ih h.2, hc, List.singleton_append]

/-- The empty step leaves a text as it is. -/
@[simp] theorem indent_empty (text : String) : indent "" text = text := by
  simp [indent, flatMap_indentChar_nil]

theorem toList_indent (step text : String) :
    (indent step text).toList =
      step.toList ++ text.toList.flatMap (indentChar step.toList) := by
  simp [indent]

/-- Two texts on lines of their own are indented one by one. -/
theorem indent_append_newline (step a b : String) :
    indent step (a ++ "\n" ++ b) = indent step a ++ "\n" ++ indent step b := by
  apply String.toList_inj.mp
  simp [toList_indent, indentChar]

@[simp] theorem repeated_zero (text : String) : repeated text 0 = "" := rfl

@[simp] theorem repeated_succ (text : String) (count : Nat) :
    repeated text (count + 1) = text ++ repeated text count := rfl

end Ambient.Text
