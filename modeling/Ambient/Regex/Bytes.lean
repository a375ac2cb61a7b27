import Ambient.Unicode.CodeSet

namespace Ambient.Regex

/-!
# Characters as bytes

A range of characters is a list of byte sequences: each is a list of byte
ranges, and any choice of one byte from each of them is a character of the
range. The sequences come in the order of the characters.
-/

/-- A range of bytes. -/
structure ByteRange where
  first : Nat
  last : Nat
deriving DecidableEq, Repr

/-- The bytes of a character. -/
def utf8Bytes (code : Nat) : List Nat :=
  if code < 0x80 then [code]
  else if code < 0x800 then [0xC0 + code / 64, 0x80 + code % 64]
  else if code < 0x10000 then
    [0xE0 + code / 4096, 0x80 + code / 64 % 64, 0x80 + code % 64]
  else
    [0xF0 + code / 262144, 0x80 + code / 4096 % 64, 0x80 + code / 64 % 64, 0x80 + code % 64]

/-- The ranges of the characters that take the same number of bytes. Surrogates
are left out. -/
def byteLengths : Unicode.CodeSet :=
  [(0, 0x7F), (0x80, 0x7FF), (0x800, 0xD7FF), (0xE000, 0xFFFF), (0x10000, Unicode.CodeSet.last)]

/-- Where a range has to be cut because its last bytes do not take all their
values, if it has to: the last character before the cut. `blocks` are the numbers
of characters that share all but their last bytes. -/
def cutPoint? (first last : Nat) (blocks : List Nat) : Option Nat :=
  blocks.findSome? fun block =>
    if first / block = last / block then none
    else if first % block ≠ 0 then some (first - first % block + (block - 1))
    else if last % block ≠ block - 1 then some (last - last % block - 1)
    else none

/-- The numbers of characters that share all but their last bytes, for the
characters from one on that take as many bytes as it does. -/
def blocks (first : Nat) : List Nat :=
  if first < 0x80 then [] else [64, 4096, 262144]

/-- The byte sequences of a range of characters that take the same number of
bytes. -/
def splitRange (first last : Nat) : List (List ByteRange) :=
  match cutPoint? first last (blocks first) with
  | none => [List.zipWith ByteRange.mk (utf8Bytes first) (utf8Bytes last)]
  | some cut =>
    if _inside : first ≤ cut ∧ cut < last then
      splitRange first cut ++ splitRange (cut + 1) last
    else []
termination_by last - first

/-- The byte sequences of ordered ranges. -/
def byteSequences (set : Unicode.CodeSet) : List (List ByteRange) :=
  set.flatMap fun range =>
    byteLengths.flatMap fun span =>
      let first := max range.1 span.1
      let last := min range.2 span.2
      if first ≤ last then splitRange first last else []

end Ambient.Regex
