import Ambient.Unicode.Property
import Ambient.Unicode.CodeSet

namespace Ambient.Lexical

open Unicode

/-!
# Names

The names of a declaration file. Any of them can name a member, but a reserved
word can name nothing else, and a keyword type can name no type.
-/

/-- Whether a name can begin with a character. -/
def isNameStart (c : Char) : Bool :=
  c.isAlpha || c = '$' || c = '_' ||
    (128 ≤ c.toNat && (ofTable idStartRuns).contains c.toNat)

/-- Whether a character can stand in a name. The two joiners can. -/
def isNamePart (c : Char) : Bool :=
  isNameStart c || c.isDigit || c = '\u200c' || c = '\u200d' ||
    (128 ≤ c.toNat && (ofTable idContinueRuns).contains c.toNat)

def isName (text : String) : Bool :=
  match text.toList with
  | [] => false
  | c :: cs => isNameStart c && cs.all isNamePart

def reservedWords : List String :=
  ["break", "case", "catch", "class", "const", "continue", "debugger", "default", "delete",
    "do", "else", "enum", "export", "extends", "false", "finally", "for", "function", "if",
    "import", "in", "instanceof", "new", "null", "return", "super", "switch", "this", "throw",
    "true", "try", "typeof", "var", "void", "while", "with"]

/-- The words that are types of their own. -/
def keywordTypes : List String :=
  ["any", "bigint", "boolean", "false", "never", "null", "number", "object", "string",
    "symbol", "true", "undefined", "unknown", "void"]

/-- A name that can be bound. -/
def isBindingName (text : String) : Bool := isName text && !reservedWords.contains text

/-- A name that can refer to a type. -/
def isTypeName (text : String) : Bool := isBindingName text && !keywordTypes.contains text

theorem isBindingName_of_isTypeName {text : String} (h : isTypeName text = true) :
    isBindingName text = true := by
  rw [isTypeName, Bool.and_eq_true] at h
  exact h.1

theorem isName_of_isBindingName {text : String} (h : isBindingName text = true) :
    isName text = true := by
  rw [isBindingName, Bool.and_eq_true] at h
  exact h.1

theorem isName_of_isTypeName {text : String} (h : isTypeName text = true) : isName text = true :=
  isName_of_isBindingName (isBindingName_of_isTypeName h)

theorem not_mem_keywordTypes_of_isTypeName {text : String} (h : isTypeName text = true) :
    text ∉ keywordTypes := by
  rw [isTypeName, Bool.and_eq_true] at h
  simpa using h.2

theorem isName_of_mem_keywordTypes {text : String} (h : text ∈ keywordTypes) :
    isName text = true := by
  revert text
  decide

theorem isNamePart_of_isDigit {c : Char} (h : c.isDigit = true) : isNamePart c = true := by
  simp [isNamePart, h]

theorem toNat_of_isDigit {c : Char} (h : c.isDigit = true) : 48 ≤ c.toNat ∧ c.toNat ≤ 57 := by
  simpa [Char.isDigit, UInt32.le_iff_toNat_le] using h

theorem isNameStart_eq_false_of_isDigit {c : Char} (h : c.isDigit = true) :
    isNameStart c = false := by
  obtain ⟨hlow, hhigh⟩ := toNat_of_isDigit h
  have halpha : c.isAlpha = false := by
    change (decide ('A'.val ≤ c.val ∧ c.val ≤ 'Z'.val) ||
      (decide ('a'.val ≤ c.val) && decide (c.val ≤ 'z'.val))) = false
    simp only [UInt32.le_iff_toNat_le, Bool.or_eq_false_iff, Bool.and_eq_false_iff,
      decide_eq_false_iff_not]
    change ¬ (65 ≤ c.toNat ∧ c.toNat ≤ 90) ∧ (¬ 97 ≤ c.toNat ∨ ¬ c.toNat ≤ 122)
    omega
  have hdollar : c ≠ '$' := by
    rintro rfl
    cases h
  have hline : c ≠ '_' := by
    rintro rfl
    cases h
  have hascii : ¬ 128 ≤ c.toNat := by omega
  simp [isNameStart, halpha, hdollar, hline, hascii]

/-- The name of a parameter that has none of its own can be bound. -/
theorem isBindingName_arg (n : Nat) : isBindingName ("arg" ++ toString n) = true := by
  have hname : isName ("arg" ++ toString n) = true := by
    have htext : ("arg" ++ toString n).toList = ['a', 'r', 'g'] ++ Nat.toDigits 10 n := by
      simp
    have hdigits : (Nat.toDigits 10 n).all isNamePart = true := by
      rw [List.all_eq_true]
      intro d hd
      exact isNamePart_of_isDigit (Nat.isDigit_of_mem_toDigits (by omega) (by omega) hd)
    rw [isName, htext]
    simp only [List.cons_append, List.nil_append, List.all_cons, hdigits, Bool.and_true]
    decide
  have hreserved : "arg" ++ toString n ∉ reservedWords := by
    intro h
    have hnot : ∀ word ∈ reservedWords, ¬ ['a', 'r', 'g'] <+: word.toList := by decide
    exact hnot _ h ⟨(toString n).toList, by simp⟩
  rw [isBindingName, hname, Bool.true_and, Bool.not_eq_true', ← Bool.not_eq_true,
    List.contains_iff_mem]
  exact hreserved

end Ambient.Lexical
