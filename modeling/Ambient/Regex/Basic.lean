import Ambient.Regex.CharSet

namespace Ambient

/-!
# Regular expressions

A pattern is matched by carrying a set of marked places of a text through it:
the places at which the part of the pattern that has been read so far can end.
Nothing has to be tried twice, and repetition stops when no new place is marked.
-/

namespace Regex

/-- Which characters make up words. -/
inductive Alphabet
  | unicode
  | ascii
deriving DecidableEq, Repr

/-- The characters of words. -/
def Alphabet.word : Alphabet → CharSet
  | .unicode => CharSet.word
  | .ascii => (CharSet.ascii? "word").getD .empty

/-- A condition on a place of a text. -/
inductive Anchor
  | start
  | finish
  | lineStart
  | lineFinish
  /-- Line ends where a line may end in a carriage return as well. -/
  | crlfStart
  | crlfFinish
  | wordBoundary (alphabet : Alphabet)
  | noWordBoundary (alphabet : Alphabet)
  | wordStart (alphabet : Alphabet)
  | wordFinish (alphabet : Alphabet)
  | noWordBefore (alphabet : Alphabet)
  | noWordAfter (alphabet : Alphabet)
deriving DecidableEq, Repr

/-- A place of a text: the characters before and after it. -/
structure Spot where
  before : Option Char
  after : Option Char
deriving DecidableEq, Repr

/-- The places of a text behind a character. -/
def spotsAfter (before : Option Char) : List Char → List Spot
  | [] => [⟨before, none⟩]
  | c :: cs => ⟨before, some c⟩ :: spotsAfter (some c) cs

/-- The places of a text, from its start to its end. -/
def spots (text : List Char) : List Spot := spotsAfter none text

def CharSet.holds (set : CharSet) : Option Char → Bool
  | some c => set.contains c.toNat
  | none => false

/-- Whether a place meets a condition. -/
def Anchor.holds (spot : Spot) : Anchor → Bool
  | .start => spot.before.isNone
  | .finish => spot.after.isNone
  | .lineStart => spot.before.isNone || spot.before = some '\n'
  | .lineFinish => spot.after.isNone || spot.after = some '\n'
  | .crlfStart =>
    spot.before.isNone || spot.before = some '\n' ||
      (spot.before = some '\r' && spot.after ≠ some '\n')
  | .crlfFinish =>
    spot.after.isNone || spot.after = some '\r' ||
      (spot.after = some '\n' && spot.before ≠ some '\r')
  | .wordBoundary a => a.word.holds spot.before != a.word.holds spot.after
  | .noWordBoundary a => a.word.holds spot.before == a.word.holds spot.after
  | .wordStart a => !a.word.holds spot.before && a.word.holds spot.after
  | .wordFinish a => a.word.holds spot.before && !a.word.holds spot.after
  | .noWordBefore a => !a.word.holds spot.before
  | .noWordAfter a => !a.word.holds spot.after

end Regex

/-- A regular expression. -/
inductive Regex
  | empty
  | char (set : Regex.CharSet)
  /-- A set in brackets, and how deep the sets in it are nested. -/
  | bracketed (set : Regex.CharSet) (depth : Nat)
  | anchor (condition : Regex.Anchor)
  | concat (parts : List Regex)
  | alternation (branches : List Regex)
  /-- At least `min` times, and at most `max` times if there is a limit. -/
  | repetition (part : Regex) (min : Nat) (max : Option Nat) (isGreedy : Bool)
  | group (part : Regex) (isCaptured : Bool)

namespace Regex

/-- Which places of a text are marked. -/
abbrev Marks := List Bool

/-- The places behind the marked characters of a set. -/
def advance (set : CharSet) : List Spot → Marks → Marks
  | spot :: spots, mark :: marks => (mark && set.holds spot.after) :: advance set spots marks
  | _, _ => []

/-- The marked places that meet a condition. -/
def keep (condition : Anchor) : List Spot → Marks → Marks
  | spot :: spots, mark :: marks => (mark && condition.holds spot) :: keep condition spots marks
  | _, _ => []

/-- The places in either of two sets. -/
def both (a b : Marks) : Marks := List.zipWith (· || ·) a b

/-- A step taken `count` times. -/
def repeatStep (step : Marks → Marks) : Nat → Marks → Marks
  | 0, marks => marks
  | count + 1, marks =>
    let next := step marks
    if next = marks then marks else repeatStep step count next

/-- A step taken at most `count` times. -/
def repeatUpTo (step : Marks → Marks) (count : Nat) (marks : Marks) : Marks :=
  repeatStep (fun marks => both marks (step marks)) count marks

mutual

/-- The places at which a pattern can end that starts at a marked place. -/
def ends (spots : List Spot) : Regex → Marks → Marks
  | .empty, marks => marks
  | .char set, marks => false :: (advance set spots marks).dropLast
  | .bracketed set _, marks => false :: (advance set spots marks).dropLast
  | .anchor condition, marks => keep condition spots marks
  | .concat parts, marks => endsAll spots parts marks
  | .alternation branches, marks => endsAny spots branches marks
  | .repetition part min max _, marks =>
    let first := repeatStep (part.ends spots) min marks
    repeatUpTo (part.ends spots) ((max.map (· - min)).getD spots.length) first
  | .group part _, marks => part.ends spots marks

/-- The places at which patterns one after the other can end. -/
def endsAll (spots : List Spot) : List Regex → Marks → Marks
  | [], marks => marks
  | part :: rest, marks => endsAll spots rest (part.ends spots marks)

/-- The places at which any of the patterns can end. -/
def endsAny (spots : List Spot) : List Regex → Marks → Marks
  | [], marks => marks.map fun _ => false
  | branch :: rest, marks => both (branch.ends spots marks) (endsAny spots rest marks)

end

/-- Whether a pattern matches anywhere in a text. -/
def isMatch (pattern : Regex) (text : String) : Bool :=
  let spots := spots text.toList
  (pattern.ends spots (spots.map fun _ => true)).any id

mutual

/-- How deep the parts of a pattern are nested. -/
def depth : Regex → Nat
  | .empty => 0
  | .char _ => 0
  | .bracketed _ depth => depth
  | .anchor _ => 0
  | .concat parts => depthAll parts + 1
  | .alternation branches => depthAll branches + 1
  | .repetition part _ _ _ => part.depth + 1
  | .group part _ => part.depth + 1

def depthAll : List Regex → Nat
  | [] => 0
  | part :: rest => max part.depth (depthAll rest)

end

end Regex

end Ambient
