import Ambient.Unicode.Latest

namespace Ambient.Text

/-!
# Escaped text

A text in double quotes as messages show it. Characters that print stay as they
are; marks that attach to the character before them, and everything that has no
shape of its own, are written by number.
-/

/-- Whether a character is written by number. -/
def isNumbered (c : Char) : Bool :=
  if c.toNat < 0x7F then c.toNat < 0x20 else Unicode.unprinted.contains c.toNat

/-- One character inside the quotes. -/
def escapedChar (c : Char) : List Char :=
  match c with
  | '\x00' => ['\\', '0']
  | '\t' => ['\\', 't']
  | '\r' => ['\\', 'r']
  | '\n' => ['\\', 'n']
  | '\\' => ['\\', '\\']
  | '"' => ['\\', '"']
  | c =>
    if isNumbered c then
      ['\\', 'u', '\x7b'] ++ Nat.toDigits 16 c.toNat ++ ['\x7d']
    else [c]

/-- The text in double quotes. -/
def escaped (text : String) : String :=
  "\"" ++ String.ofList (text.toList.flatMap escapedChar) ++ "\""

end Ambient.Text
