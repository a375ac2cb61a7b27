import Ambient.Text.Quoted

namespace Ambient.Lexical

/-!
# String literals

How a declaration file reads a string literal: where it ends, and which value its
escapes stand for. Values are sequences of 16-bit units, because an escape may
stand for half a character. What `Text.quote` writes is read back as a whole.
-/

/-- The units of a character. -/
def charUnits (c : Char) : List Nat :=
  if c.toNat < 0x10000 then [c.toNat]
  else [0xD800 + (c.toNat - 0x10000) / 0x400, 0xDC00 + (c.toNat - 0x10000) % 0x400]

/-- The units of a text. -/
def textUnits (text : String) : List Nat := text.toList.flatMap charUnits

def isHexDigit (c : Char) : Bool :=
  c.isDigit || ('a' ≤ c && c ≤ 'f') || ('A' ≤ c && c ≤ 'F')

/-- The number that hexadecimal digits write. -/
def hexValue (digits : List Char) : Nat :=
  digits.foldl
    (fun n c => 16 * n + (if c.isDigit then c.toNat - 48 else (c.toNat - 55) % 32)) 0

/-- The units of a code point that is given in an escape, if it is one. -/
def codePointUnits? (code : Nat) : Option (List Nat) :=
  if code < 0x10000 then some [code]
  else if code < 0x110000 then some (charUnits (Char.ofNat code))
  else none

def isLineEnd (c : Char) : Bool :=
  c = '\n' || c = '\r' || c = '\u2028' || c = '\u2029'

/-- What a single character after a backslash stands for. A line that is ended
there goes on, and any character without a meaning of its own stands for itself. -/
def escapedUnits? (c : Char) : Option (List Nat) :=
  match c with
  | 'n' => some [10]
  | 'r' => some [13]
  | 't' => some [9]
  | 'b' => some [8]
  | 'f' => some [12]
  | 'v' => some [11]
  | 'x' => none
  | 'u' => none
  | c => if c.isDigit then none else if isLineEnd c then some [] else some (charUnits c)

/-- What the characters after a backslash stand for, and how many of them belong
to the escape. A zero must not be followed by a digit. -/
def escape? : List Char → Option (List Nat × Nat)
  | '\r' :: '\n' :: _ => some ([], 2)
  | '0' :: rest => if rest.head?.any Char.isDigit then none else some ([0], 1)
  | 'x' :: a :: b :: _ =>
    if [a, b].all isHexDigit then some ([hexValue [a, b]], 3) else none
  | 'u' :: '{' :: rest =>
    let digits := rest.takeWhile isHexDigit
    if digits ≠ [] ∧ (rest.drop digits.length).head? = some '}' then
      (codePointUnits? (hexValue digits)).map fun units => (units, digits.length + 3)
    else none
  | 'u' :: a :: b :: c :: d :: _ =>
    if [a, b, c, d].all isHexDigit then some ([hexValue [a, b, c, d]], 5) else none
  | c :: _ => (escapedUnits? c).map fun units => (units, 1)
  | [] => none

/-- The value of what stands between the quotes of a literal. -/
def bodyUnits? : List Char → Option (List Nat)
  | [] => some []
  | '\\' :: rest =>
    match escape? rest with
    | none => none
    | some (units, count) => (bodyUnits? (rest.drop count)).map (units ++ ·)
  | c :: rest => (bodyUnits? rest).map (charUnits c ++ ·)
termination_by cs => cs.length
decreasing_by
  all_goals simp only [List.length_drop, List.length_cons]
  all_goals omega

/-- How many characters there are up to and with the quote that ends a literal.
A line end has to be escaped. -/
def literalLength (quote : Char) : List Char → Option Nat
  | [] => none
  | '\\' :: '\r' :: '\n' :: rest => (literalLength quote rest).map (· + 3)
  | '\\' :: _ :: rest => (literalLength quote rest).map (· + 2)
  | c :: rest =>
    if c = quote then some 1
    else if c = '\n' || c = '\r' then none
    else (literalLength quote rest).map (· + 1)

/-- The value of a text that is a literal as a whole. -/
def literalUnits? (text : String) : Option (List Nat) :=
  match text.toList with
  | [] => none
  | quote :: rest =>
    if (quote = '\'' ∨ quote = '"') ∧ literalLength quote rest = some rest.length then
      bodyUnits? rest.dropLast
    else none

def isLiteral (text : String) : Bool := (literalUnits? text).isSome

/-- The end of a literal is found without a look at what follows it. -/
theorem literalLength_append {quote : Char} (hquote : quote ≠ '\\') {cs : List Char} {count : Nat}
    (h : literalLength quote cs = some count) (rest : List Char) :
    literalLength quote (cs ++ rest) = some count := by
  fun_induction literalLength quote cs generalizing count with
  | case1 => cases h
  | case2 cs ih =>
      obtain ⟨n, hn, rfl⟩ := Option.map_eq_some_iff.mp h
      simp [literalLength, ih hn]
  | case3 c cs hcr ih =>
      obtain ⟨n, hn, rfl⟩ := Option.map_eq_some_iff.mp h
      have hcr' : ∀ more, c = '\r' → cs ++ rest = '\n' :: more → False := by
        intro more hc hmore
        cases cs with
        | nil => cases hn
        | cons d cs =>
            injection hmore with hd
            exact hcr cs hc (by rw [hd])
      rw [List.cons_append, List.cons_append, literalLength, ih hn]
      · rfl
      · exact hcr'
  | case4 cs hone htwo =>
      rw [List.cons_append, literalLength, if_pos rfl]
      · exact h
      · exact fun _ hbackslash => absurd hbackslash hquote
      · exact fun _ _ hbackslash => absurd hbackslash hquote
  | case5 c cs hone htwo hne hline => cases h
  | case6 c cs hone htwo hne hline ih =>
      obtain ⟨n, hn, rfl⟩ := Option.map_eq_some_iff.mp h
      have hbackslash : c ≠ '\\' := by
        rintro rfl
        cases cs with
        | nil => cases hn
        | cons d cs => exact htwo d cs rfl rfl
      rw [List.cons_append, literalLength, if_neg hne, if_neg hline, ih hn]
      · rfl
      · exact fun _ hc => absurd hc hbackslash
      · exact fun _ _ hc => absurd hc hbackslash

theorem bodyUnits?_cons {c : Char} (hc : c ≠ '\\') (rest : List Char) :
    bodyUnits? (c :: rest) = (bodyUnits? rest).map (charUnits c ++ ·) := by
  rw [bodyUnits?]
  exact fun hbackslash => hc hbackslash

theorem literalLength_cons {quote c : Char} (hquote : c ≠ quote) (hbackslash : c ≠ '\\')
    (hline : c ≠ '\n' ∧ c ≠ '\r') (rest : List Char) :
    literalLength quote (c :: rest) = (literalLength quote rest).map (· + 1) := by
  rw [literalLength, if_neg hquote, if_neg (by simpa using hline)]
  · exact fun _ hc => absurd hc hbackslash
  · exact fun _ _ hc => absurd hc hbackslash

/-- The characters that `Text.quote` writes as escapes. -/
def isEscaped (c : Char) : Prop := c ∈ ['\\', '\'', '\n', '\r', '\t']

theorem quotedChar_of_not_escaped {c : Char} (h : ¬ isEscaped c) : Text.quotedChar c = [c] := by
  unfold Text.quotedChar
  split <;> simp_all [isEscaped]

/-- One character as `Text.quote` writes it is read as that character, and the
literal does not end in it. -/
theorem read_quotedChar (c : Char) (rest : List Char) :
    bodyUnits? (Text.quotedChar c ++ rest) = (bodyUnits? rest).map (charUnits c ++ ·) ∧
      literalLength '\'' (Text.quotedChar c ++ rest) =
        (literalLength '\'' rest).map (· + (Text.quotedChar c).length) := by
  by_cases h : isEscaped c
  · have hcases : c = '\\' ∨ c = '\'' ∨ c = '\n' ∨ c = '\r' ∨ c = '\t' := by
      simpa [isEscaped] using h
    rcases hcases with rfl | rfl | rfl | rfl | rfl
    all_goals
      constructor
      · rw [Text.quotedChar, List.cons_append, bodyUnits?]
        rfl
      · rfl
  · rw [quotedChar_of_not_escaped h]
    simp only [isEscaped, List.mem_cons, List.not_mem_nil, or_false, not_or] at h
    obtain ⟨hbackslash, hquote, hnewline, hreturn, -⟩ := h
    exact ⟨bodyUnits?_cons hbackslash rest,
      literalLength_cons hquote hbackslash ⟨hnewline, hreturn⟩ rest⟩

/-- Read back what `Text.quote` writes, character by character. -/
theorem read_quoted (cs rest : List Char) :
    bodyUnits? (cs.flatMap Text.quotedChar) = some (cs.flatMap charUnits) ∧
      literalLength '\'' (cs.flatMap Text.quotedChar ++ '\'' :: rest) =
        some ((cs.flatMap Text.quotedChar).length + 1) := by
  induction cs with
  | nil =>
      refine ⟨by rw [List.flatMap_nil, bodyUnits?]; rfl, ?_⟩
      rw [List.flatMap_nil, List.nil_append, literalLength, if_pos rfl]
      · rfl
      · simp
      · simp
  | cons c cs ih =>
      obtain ⟨hunits, hlength⟩ := ih
      rw [List.flatMap_cons]
      constructor
      · rw [(read_quotedChar c _).1, hunits]
        rfl
      · rw [List.append_assoc, (read_quotedChar c _).2, hlength]
        simp only [Option.map_some, List.length_append]
        congr 1
        omega

/-- The literal that is written for a text has its units as its value. -/
theorem literalUnits?_quote (text : String) :
    literalUnits? (Text.quote text) = some (textUnits text) := by
  have hlength := (read_quoted text.toList []).2
  have hunits := (read_quoted text.toList []).1
  unfold literalUnits?
  rw [Text.toList_quote]
  simp [hlength, hunits, textUnits]

theorem isLiteral_quote (text : String) : isLiteral (Text.quote text) = true := by
  rw [isLiteral, literalUnits?_quote]
  rfl

end Ambient.Lexical
