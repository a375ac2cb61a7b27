import Ambient.Number.Shortest
import Ambient.Proofs.Lexical.Name

namespace Ambient.Lexical

/-!
# Numerals

How a declaration file reads a number, with or without a minus sign: where it
ends, and whether it is written as numbers are.
-/

/-- Digits, which may be set apart by single underscores. -/
def isDigits (isDigit : Char → Bool) : List Char → Bool
  | [] => false
  | [c] => isDigit c
  | c :: '_' :: rest => isDigit c && isDigits isDigit rest
  | c :: rest => isDigit c && isDigits isDigit rest

/-- The digits of a whole number, which begin with a zero only if that is all. -/
def isWhole (cs : List Char) : Bool :=
  cs = ['0'] || (cs.head? ≠ some '0' && isDigits Char.isDigit cs)

/-- A decimal without an exponent. There may be a point at either end. -/
def isFixed (cs : List Char) : Bool :=
  match cs.dropWhile (· ≠ '.') with
  | [] => isWhole cs
  | [_] => isWhole (cs.takeWhile (· ≠ '.'))
  | _ :: fraction =>
    (cs.head? = some '.' || isWhole (cs.takeWhile (· ≠ '.'))) && isDigits Char.isDigit fraction

def isExponentMark (c : Char) : Bool := c = 'e' || c = 'E'

def isSign (c : Char) : Bool := c = '+' || c = '-'

def isDecimal (cs : List Char) : Bool :=
  isFixed (cs.takeWhile (!isExponentMark ·)) &&
    match cs.dropWhile (!isExponentMark ·) with
    | [] => true
    | _ :: exponent =>
      isDigits Char.isDigit (if exponent.head?.any isSign then exponent.tail else exponent)

/-- A number without a sign, in one of four bases. -/
def isUnsigned : List Char → Bool
  | '0' :: base :: digits =>
    if base = 'x' ∨ base = 'X' then
      isDigits (fun c => c.isDigit || ('a' ≤ c && c ≤ 'f') || ('A' ≤ c && c ≤ 'F')) digits
    else if base = 'o' ∨ base = 'O' then isDigits (fun c => '0' ≤ c && c ≤ '7') digits
    else if base = 'b' ∨ base = 'B' then isDigits (fun c => c = '0' || c = '1') digits
    else isDecimal ('0' :: base :: digits)
  | cs => isDecimal cs

/-- Whether a character can follow another one in a numeral. -/
def isNumeralPart (previous c : Char) : Bool :=
  isNamePart c || c = '.' || (isSign c && isExponentMark previous)

/-- How many characters behind one in a numeral belong to the same numeral. -/
def numeralLength (previous : Char) : List Char → Nat
  | [] => 0
  | c :: rest => if isNumeralPart previous c then numeralLength c rest + 1 else 0

/-- Whether a numeral begins with a character that these follow. -/
def startsNumeral (c : Char) (rest : List Char) : Bool :=
  c.isDigit || c = '-' || (c = '.' && rest.head?.any Char.isDigit)

/-- A text that is read as one numeral and is written as numerals are. -/
def isNumeral (text : String) : Bool :=
  match text.toList with
  | [] => false
  | c :: rest =>
    startsNumeral c rest && numeralLength c rest = rest.length &&
      (if c = '-' then isUnsigned rest else isUnsigned (c :: rest))

theorem startsNumeral_append {c : Char} {cs : List Char} (h : startsNumeral c cs = true)
    (rest : List Char) : startsNumeral c (cs ++ rest) = true := by
  cases cs with
  | nil =>
      simp only [startsNumeral, List.head?_nil, Option.any_none, Bool.and_false,
        Bool.or_false] at h
      rw [startsNumeral, h, Bool.true_or]
  | cons d cs => exact h

/-- The end of a numeral is where something comes that cannot go on with it. -/
theorem numeralLength_append {previous : Char} {cs rest : List Char}
    (h : numeralLength previous cs = cs.length)
    (hrest : ∀ c ∈ rest.head?, ∀ p, isNumeralPart p c = false) :
    numeralLength previous (cs ++ rest) = cs.length := by
  induction cs generalizing previous with
  | nil =>
      cases rest with
      | nil => rfl
      | cons c rest =>
          rw [List.nil_append, numeralLength, if_neg]
          · rfl
          · simp [hrest c rfl previous]
  | cons c cs ih =>
      rw [numeralLength] at h
      by_cases hc : isNumeralPart previous c = true
      · rw [if_pos hc, List.length_cons] at h
        rw [List.cons_append, numeralLength, if_pos hc, ih (by omega), List.length_cons]
      · rw [if_neg hc] at h
        cases h

theorem isNameStart_eq_false_of_startsNumeral {c : Char} {rest : List Char}
    (h : startsNumeral c rest = true) : isNameStart c = false := by
  simp only [startsNumeral, Bool.or_eq_true, Bool.and_eq_true, decide_eq_true_eq] at h
  rcases h with (hdigit | rfl) | ⟨rfl, -⟩
  · exact isNameStart_eq_false_of_isDigit hdigit
  · decide
  · decide

end Ambient.Lexical
