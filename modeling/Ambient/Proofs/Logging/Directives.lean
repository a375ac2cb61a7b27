import Ambient.Proofs.Logging.Levels
import Ambient.Proofs.Text.Lines
import Ambient.Proofs.Text.Trimmed

namespace Ambient.Logging

/-!
# Scoped directives

A list of directives is brought into a normal form: nothing in it is empty, has a blank at an
end or is a level without a target. What is in normal form is left as it is, and lists that
are put together are scoped one by one.
-/

/-- A directive as it stands in a list. -/
structure IsDirective (text : String) : Prop where
  ne_empty : text ≠ ""
  noComma : ',' ∉ text.toList
  trimmed : Text.IsTrimmed text.toList

/-- The pieces of a list between its commas, as they stand. An empty text has none. -/
def pieces (text : String) : List String :=
  if text = "" then [] else (text.toList.splitOn ',').map String.ofList

theorem directives_append_comma (a b : String) :
    directives (a ++ "," ++ b) = directives a ++ directives b := by
  have hchars : (a ++ "," ++ b).toList = a.toList ++ ',' :: b.toList := by simp
  rw [directives, hchars, List.splitOn_append_cons_self, List.map_append, List.filter_append]
  rfl

theorem IsDirective.directives_eq {directive : String} (h : IsDirective directive) :
    directives directive = [directive] := by
  rw [directives, List.splitOn_eq_singleton h.noComma, List.map_singleton,
    Text.trim_of_isTrimmed h.trimmed, String.ofList_toList]
  simp [h.ne_empty]

theorem directives_intercalate {ds : List String} (h : ∀ d ∈ ds, IsDirective d) :
    directives (",".intercalate ds) = ds := by
  induction ds with
  | nil => rfl
  | cons first rest ih =>
      obtain ⟨hfirst, hrest⟩ := List.forall_mem_cons.mp h
      cases rest with
      | nil => simpa using hfirst.directives_eq
      | cons next rest =>
          rw [String.intercalate_cons_cons, directives_append_comma, hfirst.directives_eq, ih hrest]
          rfl

theorem intercalate_eq_empty_iff {ds : List String} (h : ∀ d ∈ ds, IsDirective d) :
    ",".intercalate ds = "" ↔ ds = [] := by
  constructor
  · intro hempty
    rw [← directives_intercalate h, hempty]
    rfl
  · rintro rfl
    rfl

theorem pieces_intercalate {ds : List String} (h : ∀ d ∈ ds, IsDirective d) :
    pieces (",".intercalate ds) = ds := by
  cases ds with
  | nil => rfl
  | cons first rest =>
      -- The text is not empty, so it is cut at its commas, and there are none inside directives.
      have hne : ",".intercalate (first :: rest) ≠ "" := by simp [intercalate_eq_empty_iff h]
      have hcomma : ∀ cs ∈ (first :: rest).map String.toList, ',' ∉ cs :=
        List.forall_mem_map.mpr fun d hd => (h d hd).noComma
      have hchars : ",".toList = [','] := rfl
      rw [pieces, if_neg hne, String.toList_intercalate, hchars,
        List.splitOn_intercalate ',' hcomma (by simp), List.map_map]
      simp [Function.comp_def]

example : scopeDirectives "dtsgen_emitter::printer=trace, +05," =
    "dtsgen_emitter::printer=trace,dtsgen=+05,dtsgen_ast=+05,dtsgen_emitter=+05,dtsgen_cli=+05" := by
  decide

end Ambient.Logging
