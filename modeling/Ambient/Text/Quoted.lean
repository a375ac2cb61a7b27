namespace Ambient.Text

/-!
# Quoted text

A string literal in single quotes. The quote, the backslash and the three
control characters that would end or move a line are written as escapes, so a
literal always stays on its line.
-/

/-- One character inside a literal. -/
def quotedChar (c : Char) : List Char :=
  match c with
  | '\\' => ['\\', '\\']
  | '\'' => ['\\', '\'']
  | '\n' => ['\\', 'n']
  | '\r' => ['\\', 'r']
  | '\t' => ['\\', 't']
  | c => [c]

/-- The single-quoted literal of a text. -/
def quote (text : String) : String :=
  "'" ++ String.ofList (text.toList.flatMap quotedChar) ++ "'"

theorem toList_quote (text : String) :
    (quote text).toList = '\'' :: (text.toList.flatMap quotedChar ++ ['\'']) := by
  simp [quote]

end Ambient.Text
