import Ambient.Regex.Basic
import Ambient.Regex.Bytes

namespace Ambient.Regex

/-!
# Simplified patterns

A pattern without what makes no difference to it: neighbours are joined,
branches that are sets become one set, and what all branches begin with stands
before them. An automaton is made from the simplified pattern.
-/

/-- A simplified pattern. -/
inductive Simplified
  /-- These characters one after the other. -/
  | literal (codes : List Nat)
  /-- One character of a set, with the byte sequences of the set. -/
  | set (ranges : Unicode.CodeSet) (sequences : List (List ByteRange))
  | anchor (condition : Anchor)
  | repetition (part : Simplified) (min : Nat) (max : Option Nat) (isGreedy : Bool)
  | capture (part : Simplified)
  | concat (parts : List Simplified)
  | alternation (branches : List Simplified)

namespace Simplified

def empty : Simplified := .concat []

/-- One character of ordered ranges. A set of one character is that character. -/
def ofRanges (ranges : Unicode.CodeSet) : Simplified :=
  match ranges with
  | [(first, last)] =>
    if first = last then .literal [first] else .set ranges (byteSequences ranges)
  | ranges => .set ranges (byteSequences ranges)

/-- How many bytes a character takes. -/
def byteCount (code : Nat) : Nat := (utf8Bytes code).length

mutual

/-- The fewest bytes that a pattern matches, if it matches any. -/
def minBytes? : Simplified → Option Nat
  | .literal codes => some (codes.map byteCount).sum
  | .set ranges _ => ranges.head?.map fun range => byteCount range.1
  | .anchor _ => some 0
  | .repetition part min _ _ => part.minBytes?.map (· * min)
  | .capture part => part.minBytes?
  | .concat parts => minBytesAll? parts
  | .alternation branches => minBytesAny? branches

def minBytesAll? : List Simplified → Option Nat
  | [] => some 0
  | part :: rest => do return (← part.minBytes?) + (← minBytesAll? rest)

def minBytesAny? : List Simplified → Option Nat
  | [] => none
  | [branch] => branch.minBytes?
  | branch :: rest => do return min (← branch.minBytes?) (← minBytesAny? rest)

end

mutual

/-- The most bytes that a pattern matches, if there is a limit. -/
def maxBytes? : Simplified → Option Nat
  | .literal codes => some (codes.map byteCount).sum
  | .set ranges _ => ranges.getLast?.map fun range => byteCount range.2
  | .anchor _ => some 0
  | .repetition part _ max _ => do return (← part.maxBytes?) * (← max)
  | .capture part => part.maxBytes?
  | .concat parts => maxBytesAll? parts
  | .alternation branches => maxBytesAny? branches

def maxBytesAll? : List Simplified → Option Nat
  | [] => some 0
  | part :: rest => do return (← part.maxBytes?) + (← maxBytesAll? rest)

def maxBytesAny? : List Simplified → Option Nat
  | [] => none
  | [branch] => branch.maxBytes?
  | branch :: rest => do return max (← branch.maxBytes?) (← maxBytesAny? rest)

end

/-- Whether a pattern takes no characters of a text. -/
def isWidthless (pattern : Simplified) : Bool := pattern.maxBytes? == some 0

mutual

/-- Whether two patterns are the same. No two captures are. -/
def same : Simplified → Simplified → Bool
  | .literal a, .literal b => a == b
  | .set a _, .set b _ => a == b
  | .anchor a, .anchor b => a == b
  | .repetition a min max isGreedy, .repetition b min' max' isGreedy' =>
    min == min' && max == max' && isGreedy == isGreedy' && a.same b
  | .concat as, .concat bs => sameAll as bs
  | .alternation as, .alternation bs => sameAll as bs
  | _, _ => false

def sameAll : List Simplified → List Simplified → Bool
  | [], [] => true
  | a :: as, b :: bs => a.same b && sameAll as bs
  | _, _ => false

end

/-- Neighbours that are literal joined into one. -/
def joinLiterals : List Simplified → List Simplified
  | [] => []
  | .literal a :: rest =>
    match joinLiterals rest with
    | .literal b :: more => .literal (a ++ b) :: more
    | more => .literal a :: more
  | part :: rest => part :: joinLiterals rest

/-- Patterns one after the other. -/
def sequence (parts : List Simplified) : Simplified :=
  let parts := parts.flatMap fun
    | .concat inner => inner
    | part => [part]
  match joinLiterals parts with
  | [part] => part
  | parts => .concat parts

/-- A pattern repeated. What takes no characters need not be repeated. -/
def repeated (part : Simplified) (min : Nat) (max : Option Nat) (isGreedy : Bool) : Simplified :=
  let isWidthless := part.isWidthless
  let min := if isWidthless then Nat.min min 1 else min
  let max := if isWidthless then some (Nat.min (max.getD 1) 1) else max
  if max = some 0 then empty
  else if min = 1 ∧ max = some 1 then part
  else .repetition part min max isGreedy

/-- The character of a pattern that is one literal character. -/
def character? : Simplified → Option Nat
  | .literal [code] => some code
  | _ => none

/-- The ranges of a pattern that is a set. -/
def ranges? : Simplified → Option Unicode.CodeSet
  | .set ranges _ => some ranges
  | _ => none

/-- The parts of a pattern that is several one after the other. -/
def parts? : Simplified → Option (List Simplified)
  | .concat [] => none
  | .concat parts => some parts
  | _ => none

/-- How many patterns two lists have in common at their starts. -/
def commonLength : List Simplified → List Simplified → Nat
  | a :: as, b :: bs => if a.same b then commonLength as bs + 1 else 0
  | _, _ => 0

/-- How many parts all branches begin with. -/
def sharedLength : List (List Simplified) → Nat
  | [] => 0
  | first :: others =>
    others.foldl (fun length parts => min length (commonLength first parts)) first.length

/-- Branches that have nothing in common at their starts. -/
def choose (branches : List Simplified) : Simplified :=
  let branches := branches.flatMap fun
    | .alternation inner => inner
    | branch => [branch]
  match branches with
  | [branch] => branch
  | branches =>
    match branches.mapM character?, branches.mapM ranges? with
    | some codes, _ =>
      ofRanges (Unicode.CodeSet.ordered (codes.map fun code => (code, code)))
    | none, some sets => ofRanges (Unicode.CodeSet.ordered sets.flatten)
    | none, none => .alternation branches

/-- Patterns any of which may match. What they all begin with stands before
them. -/
def choice (branches : List Simplified) : Simplified :=
  match choose branches with
  | .alternation branches =>
    match branches.mapM parts? with
    | none => .alternation branches
    | some lists =>
      match sharedLength lists, lists with
      | 0, _ => .alternation branches
      | _, [] => .alternation branches
      | length, first :: _ =>
        sequence (first.take length ++ [choose (lists.map fun parts => sequence (parts.drop length))])
  | pattern => pattern

end Simplified

mutual

/-- The pattern without what makes no difference. -/
def simplify : Regex → Simplified
  | .empty => .empty
  | .char set => .ofRanges set.ranges.characters
  | .bracketed set _ => .ofRanges set.ranges.characters
  | .anchor condition => .anchor condition
  | .concat parts => .sequence (simplifyAll parts)
  | .alternation branches => .choice (simplifyAll branches)
  | .repetition part min max isGreedy => part.simplify.repeated min max isGreedy
  | .group part isCaptured => if isCaptured then .capture part.simplify else part.simplify

def simplifyAll : List Regex → List Simplified
  | [] => []
  | part :: rest => part.simplify :: simplifyAll rest

end

end Ambient.Regex
