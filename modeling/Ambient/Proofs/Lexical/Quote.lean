import Ambient.Proofs.Lexical.Unescaped
import Ambient.TypeText

namespace Ambient.Lexical

/-!
# Reading quoted texts

What `Text.quote` writes is undone by reading a literal: the text comes back, and so does
whatever follows the literal.
-/

/-- The characters that units stand for, unless half a character is missing its other half. -/
def unitsChars? : List Nat → Option (List Char)
  | [] => some []
  | unit :: rest =>
    if unit < 0xD800 ∨ 0xDFFF < unit then (unitsChars? rest).map (Char.ofNat unit :: ·)
    else match rest with
      | [] => none
      | low :: rest =>
        if unit < 0xDC00 ∧ 0xDC00 ≤ low ∧ low < 0xE000 then
          (unitsChars? rest).map
            (Char.ofNat (0x10000 + (unit - 0xD800) * 0x400 + (low - 0xDC00)) :: ·)
        else none

/-- The text that the literal at the beginning stands for, and what follows the literal. -/
def readLiteral? (text : String) : Option (String × String) :=
  (firstLiteral? text).bind fun (literal, units) => (unitsChars? units).map fun cs =>
    (String.ofList cs, String.ofList (text.toList.drop literal.toList.length))

theorem unitsChars?_whole {unit : Nat} (h : unit < 0xD800 ∨ 0xDFFF < unit) (rest : List Nat) :
    unitsChars? (unit :: rest) = (unitsChars? rest).map (Char.ofNat unit :: ·) := by
  rw [unitsChars?.eq_def]
  exact if_pos h

theorem unitsChars?_pair {high low : Nat} (hhigh : high < 0x400) (hlow : low < 0x400)
    (rest : List Nat) : unitsChars? ((0xD800 + high) :: (0xDC00 + low) :: rest) =
      (unitsChars? rest).map (Char.ofNat (0x10000 + high * 0x400 + low) :: ·) := by
  have hhalf : ¬ (0xD800 + high < 0xD800 ∨ 0xDFFF < 0xD800 + high) := by omega
  have hpair : 0xD800 + high < 0xDC00 ∧ 0xDC00 ≤ 0xDC00 + low ∧ 0xDC00 + low < 0xE000 := by omega
  rw [unitsChars?.eq_def]
  dsimp only
  rw [if_neg hhalf, if_pos hpair, Nat.add_sub_cancel_left, Nat.add_sub_cancel_left]

theorem unitsChars?_charUnits_append (c : Char) (rest : List Nat) :
    unitsChars? (charUnits c ++ rest) = (unitsChars? rest).map (c :: ·) := by
  have hvalid : c.toNat < 0xD800 ∨ 0xDFFF < c.toNat ∧ c.toNat < 0x110000 := c.valid
  unfold charUnits
  split
  next hsmall =>
      rw [List.singleton_append, unitsChars?_whole (by omega), Char.ofNat_toNat]
  next hlarge =>
      -- The two halves give back the code point.
      have hsame : 0x10000 + (c.toNat - 0x10000) / 0x400 * 0x400 + (c.toNat - 0x10000) % 0x400 =
          c.toNat := by omega
      have hhigh : (c.toNat - 0x10000) / 0x400 < 0x400 := by omega
      have hlow : (c.toNat - 0x10000) % 0x400 < 0x400 := by omega
      rw [List.cons_append, List.singleton_append, unitsChars?_pair hhigh hlow, hsame,
        Char.ofNat_toNat]

theorem unitsChars?_textUnits (text : String) :
    unitsChars? (textUnits text) = some text.toList := by
  unfold textUnits
  induction text.toList with
  | nil => rfl
  | cons c cs ih => rw [List.flatMap_cons, unitsChars?_charUnits_append, ih, Option.map_some]

theorem firstLiteral?_quote (text rest : String) :
    firstLiteral? (Text.quote text ++ rest) = some (Text.quote text, textUnits text) := by
  have hquote : (Text.quote text).toList.head? = some '\'' := by
    rw [Text.toList_quote, List.head?_cons]
  rw [firstLiteral?_append_iff hquote, literalUnits?_quote]

theorem readLiteral?_quote (text rest : String) :
    readLiteral? (Text.quote text ++ rest) = some (text, rest) := by
  rw [readLiteral?, firstLiteral?_quote, Option.bind_some]
  dsimp only
  rw [unitsChars?_textUnits, Option.map_some, String.toList_append, List.drop_left,
    String.ofList_toList, String.ofList_toList]

theorem quote_append_inj {text other rest after : String} :
    Text.quote other ++ after = Text.quote text ++ rest ↔ other = text ∧ after = rest := by
  constructor
  · intro h
    have hread := readLiteral?_quote other after
    rw [h, readLiteral?_quote, Option.some_inj, Prod.mk.injEq] at hread
    exact ⟨hread.1.symm, hread.2.symm⟩
  · rintro ⟨rfl, rfl⟩
    rfl

theorem not_mem_quotedChar {c : Char} (hc : c ∈ ['\n', '\r', '\t']) (d : Char) :
    c ∉ Text.quotedChar d := by
  by_cases hd : isEscaped d
  · simp only [isEscaped, List.mem_cons, List.not_mem_nil, or_false] at hc hd
    rcases hd with rfl | rfl | rfl | rfl | rfl <;> rcases hc with rfl | rfl | rfl <;> decide
  · rw [quotedChar_of_not_escaped hd, List.mem_singleton]
    rintro rfl
    exact hd (List.mem_cons_of_mem _ (List.mem_cons_of_mem _ hc))

theorem not_mem_quote {c : Char} (hc : c ∈ ['\n', '\r', '\t']) (text : String) :
    c ∉ (Text.quote text).toList := by
  have hquote : c ≠ '\'' := by
    rintro rfl
    revert hc
    decide
  rw [Text.toList_quote]
  simp [hquote, not_mem_quotedChar hc]

theorem foldr_indent_inline (steps : List String) (before after : String) {inner : String}
    (h : '\n' ∉ inner.toList) : steps.foldr Text.indent (before ++ inner ++ after) =
      steps.foldr Text.indent before ++ inner ++ steps.foldr Text.hang after := by
  induction steps with
  | nil => rfl
  | cons step steps ih =>
      rw [List.foldr_cons, ih, Text.indent_eq_hang, Text.hang_append, Text.hang_append,
        Text.hang_of_inline step h]
      simp only [List.foldr_cons, Text.indent_eq_hang, String.append_assoc]

/-- A literal type is read back as the text it stands for, whatever follows it and however it
has been indented. -/
theorem quote_undone (text rest : String) :
    firstLiteral? (Text.quote text ++ rest) = some (Text.quote text, textUnits text) ∧
    readLiteral? (Text.quote text ++ rest) = some (text, rest) ∧
    ('\n' ∉ (Text.quote text).toList ∧ '\r' ∉ (Text.quote text).toList ∧
      '\t' ∉ (Text.quote text).toList) ∧
    (∀ other after, Text.quote other ++ after = Text.quote text ++ rest ↔
      other = text ∧ after = rest) ∧
    (FlowType.stringLiteral text).text = .ok (Text.quote text) ∧
    ∀ (steps : List String) (before after : String),
      steps.foldr Text.indent (before ++ Text.quote text ++ after) =
        steps.foldr Text.indent before ++ Text.quote text ++ steps.foldr Text.hang after := by
  have hnewline : '\n' ∉ (Text.quote text).toList := not_mem_quote (by decide) text
  have hreturn : '\r' ∉ (Text.quote text).toList := not_mem_quote (by decide) text
  have htab : '\t' ∉ (Text.quote text).toList := not_mem_quote (by decide) text
  exact ⟨firstLiteral?_quote text rest, readLiteral?_quote text rest, ⟨hnewline, hreturn, htab⟩,
    fun other after => quote_append_inj, rfl,
    fun steps before after => foldr_indent_inline steps before after hnewline⟩

end Ambient.Lexical
