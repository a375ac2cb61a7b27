namespace Ambient.Unicode

/-!
# Sets of code points

A set of code points is a list of closed ranges. Tables write a set down as the
lengths of the runs outside and inside it in turn, from code point zero on.
-/

/-- Closed ranges of code points. -/
abbrev CodeSet := List (Nat × Nat)

namespace CodeSet

def contains (set : CodeSet) (code : Nat) : Bool :=
  set.any fun (first, last) => first ≤ code && code ≤ last

/-- The ranges given by the runs outside and inside a set, starting at a code
point that is outside. -/
def ofRuns (start : Nat) : List Nat → CodeSet
  | outside :: inside :: rest =>
    (start + outside, start + outside + inside - 1) :: ofRuns (start + outside + inside) rest
  | _ => []

/-- The last code point. -/
def last : Nat := 0x10FFFF

/-- A range joined with those behind it, as far as there is no gap. -/
def joinFrom (current : Nat × Nat) : CodeSet → CodeSet
  | [] => [current]
  | next :: rest =>
    if next.1 ≤ current.2 + 1 then joinFrom (current.1, max current.2 next.2) rest
    else current :: joinFrom next rest

/-- The same set with its ranges in order and a gap between any two. -/
def ordered (set : CodeSet) : CodeSet :=
  match set.mergeSort fun a b => a.1 ≤ b.1 with
  | [] => []
  | first :: rest => joinFrom first rest

/-- What ordered ranges leave out, from a code point on. -/
def gapsFrom (start : Nat) : CodeSet → CodeSet
  | [] => if start ≤ last then [(start, last)] else []
  | range :: rest =>
    if start < range.1 then (start, range.1 - 1) :: gapsFrom (range.2 + 1) rest
    else gapsFrom (range.2 + 1) rest

/-- The complement of ordered ranges. -/
def complement (set : CodeSet) : CodeSet := gapsFrom 0 set

/-- The characters of ordered ranges: code points but for surrogates. -/
def characters (set : CodeSet) : CodeSet :=
  set.flatMap fun range =>
    [(range.1, min range.2 0xD7FF), (max range.1 0xE000, range.2)].filter fun part =>
      part.1 ≤ part.2

end CodeSet

/-- The words of a table, which are set apart by blanks and line ends. -/
def words (table : String) : List (List Char) :=
  (table.toList.splitOnP fun c => c = ' ' || c = '\n').filter (· ≠ [])

/-- The number that decimal digits write. -/
def number (digits : List Char) : Nat :=
  digits.foldl (fun n c => 10 * n + (c.toNat - '0'.toNat)) 0

/-- The set that a table of runs describes. -/
def ofTable (table : String) : CodeSet :=
  CodeSet.ofRuns 0 ((words table).map number)

end Ambient.Unicode
