import Ambient.Proofs.Collection.Walk
import Ambient.Proofs.Emission.Document
import Ambient.Proofs.Layout.Declarations
import Ambient.Proofs.Layout.Lines

namespace Ambient

open Text

/-!
# Indentation of documents

Every line of a document is indented by one step for each brace that is open before it. The
lines are those of the declarations, one step further in where a module stands around them.
-/

/-- Whether the listed statements are plain. A variable statement is not listed by itself in
a program; one that is begins with its keyword. -/
def Collected.isPlain (collected : Collected) : Bool :=
  collected.statements.all fun statement => statement.isPlain && statement.hasKeyword

/-- A text is made of lines, its braces are balanced, and each line is indented by the braces
that are open behind the lines before it. -/
structure MarkedLine.Document (text : String) (lines : List MarkedLine) : Prop where
  joined : text = MarkedLine.joined lines
  noNewline : ∀ line ∈ lines, '\n' ∉ line.text.toList
  balanced : openBraces? 0 text.toList = some 0
  indented : ∀ before line after, lines = before ++ line :: after → ∃ depth,
    openBraces? 0 (MarkedLine.joined before).toList = some depth ∧ line.IsIndented depth

section

variable {layout : Layout}

theorem MarkedLine.ByDepth.flatMap {α : Type} {f : α → List MarkedLine} {l : List α} {n : Nat}
    (h : ∀ a ∈ l, ByDepth n (f a) n) : ByDepth n (l.flatMap f) n := by
  induction l with
  | nil => exact .nil n
  | cons a l ih =>
      obtain ⟨hfirst, hrest⟩ := List.forall_mem_cons.mp h
      rw [List.flatMap_cons]
      exact hfirst.append (ih hrest)

end

namespace Options

def quiet : Options := { suppressComments := true, filter := .keepAll }

end Options

end Ambient
