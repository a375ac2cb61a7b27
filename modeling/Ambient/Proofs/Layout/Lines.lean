import Ambient.Proofs.Text.Braces
import Ambient.Run.Outcome

namespace Ambient

/-!
# Lines that go by their depth

The lines of a text in which every line is indented by one step for each open brace.
A line that goes on with a variable statement stands one step further in.
-/

/-- A line, and whether it goes on with a variable statement. -/
structure MarkedLine where
  text : String
  continues : Bool
deriving DecidableEq, Repr

namespace MarkedLine

/-- Where `depth` braces are open, a line begins with as many steps, one less in front
of a closing brace. What follows does not begin with white space. -/
def IsIndented (line : MarkedLine) (depth : Nat) : Prop :=
  ∃ (steps : Nat) (rest : String),
    line.text = Text.repeated "  " steps ++ (if line.continues then "  " else "") ++ rest ∧
      (∀ c ∈ rest.toList.head?, Text.isBlank c = false) ∧
      depth = steps + if rest.toList.head? = some '}' then 1 else 0

def indent (line : MarkedLine) : MarkedLine := ⟨"  " ++ line.text, line.continues⟩

theorem IsIndented.indent {line : MarkedLine} {depth : Nat} (h : line.IsIndented depth) :
    line.indent.IsIndented (depth + 1) := by
  obtain ⟨steps, rest, htext, hrest, rfl⟩ := h
  refine ⟨steps + 1, rest, ?_, hrest, by omega⟩
  simp [MarkedLine.indent, htext, String.append_assoc]

/-- Lines that are indented by the braces that are open before them, `n` before the
first one and `m` behind the last one. -/
inductive ByDepth : Nat → List MarkedLine → Nat → Prop
  | nil (n : Nat) : ByDepth n [] n
  | cons {n k m : Nat} {line : MarkedLine} {lines : List MarkedLine}
      (indented : line.IsIndented n) (braces : Text.openBraces? n line.text.toList = some k)
      (rest : ByDepth k lines m) : ByDepth n (line :: lines) m

/-- The lines of a text. If it is a variable statement, all but the first go on with
it. -/
def ofText (continues : Bool) (text : String) : List MarkedLine :=
  match Text.lines text with
  | [] => []
  | first :: rest => ⟨first, false⟩ :: rest.map fun line => ⟨line, continues⟩

/-- A text of lines that each end in a newline. -/
def joined (lines : List MarkedLine) : String := onLines (lines.map (·.text))

namespace ByDepth

variable {n k m : Nat} {lines others : List MarkedLine}

theorem append (h : ByDepth n lines k) (hothers : ByDepth k others m) :
    ByDepth n (lines ++ others) m := by
  induction h with
  | nil => exact hothers
  | cons indented braces _ ih => exact .cons indented braces (ih hothers)

theorem indent (h : ByDepth n lines m) : ByDepth (n + 1) (lines.map MarkedLine.indent) (m + 1) := by
  induction h with
  | nil n => exact .nil (n + 1)
  | cons indented braces _ ih =>
      refine .cons indented.indent ?_ ih
      simpa [MarkedLine.indent, Text.openBraces?] using Text.openBraces?_add braces 1

end ByDepth

end MarkedLine

end Ambient
