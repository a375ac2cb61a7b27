import Ambient.Regex.Reader
import Ambient.Regex.Simplified
import Std.Data.HashMap

namespace Ambient.Regex

/-!
# How large an automaton is

A pattern is matched by an automaton that reads bytes, from the start of a text
or back from its end. Patterns whose automata take too much room are refused.
The automata themselves are not needed here, so only their states and the room
for them are counted, in the order in which they would be made.
-/

/-- The way in which an automaton reads. -/
inductive Direction
  | forward
  | backward
deriving DecidableEq, Repr

/-- The states made so far, and the bytes that they take beyond their fixed
size. -/
structure Extent where
  states : Nat
  extra : Nat
deriving DecidableEq, Repr

def Extent.zero : Extent := ⟨0, 0⟩

/-- The bytes that an automaton takes. -/
def Extent.bytes (extent : Extent) : Nat := 32 * extent.states + extent.extra

/-- The most bytes that an automaton may take: ten mebibytes. -/
def maxBytes : Nat := 10485760

/-- The making of a part of an automaton, which stops where there is no more
room. -/
abbrev Building := StateT Extent Option

namespace Building

/-- Room taken, if there is as much left. -/
def take (states extra : Nat) : Building Unit := fun extent =>
  let extent := ⟨extent.states + states, extent.extra + extra⟩
  if extent.bytes ≤ maxBytes then some ((), extent) else none

/-- One more state; its number is the answer. -/
def state (extra : Nat) : Building Nat := do
  let extent ← get
  take 1 extra
  return extent.states

/-- Links from a state that branches. -/
def links (count : Nat) : Building Unit := take 0 (4 * count)

end Building

/-- How a part of an automaton ends: in a state that has room for the link to
the next part, or in one that branches, where the link is one more. -/
inductive Exit
  | plain
  | branch
deriving DecidableEq, Repr

/-- The link from the end of a part to the next. -/
def Exit.link : Exit → Building Unit
  | .plain => pure ()
  | .branch => Building.links 1

/-! ## Sets of characters -/

/-- A step on the bytes of a range, to the state of this number. -/
structure Transition where
  bytes : ByteRange
  next : Nat
deriving DecidableEq, Repr

/-- One more number in a running hash. -/
def mix (hash : UInt64) (n : Nat) : UInt64 := (hash ^^^ n.toUInt64) * 1099511628211

def hashStart : UInt64 := 14695981039346656037

/-- States that can be used again, by their places. A place holds one state
only: the last one that was put there. -/
abbrev Shared (κ : Type) := Std.HashMap Nat (κ × Nat)

/-- The making of states that are shared where they are alike. -/
abbrev Sharing (κ : Type) := StateT (Shared κ) Building

/-- A state for a key: the one in the key's place if that is its state, or a new
one with so many extra bytes. -/
def share {κ : Type} [DecidableEq κ] (place : Nat) (key : κ) (extra : Nat) : Sharing κ Nat := do
  match (← get)[place]? with
  | some (known, number) =>
    if known = key then return number else make
  | none => make
where
  make : Sharing κ Nat := do
    let number ← liftM (Building.state extra)
    modify fun shared => shared.insert place (key, number)
    return number

/-- A state with several transitions. -/
def branchState (transitions : List Transition) : Sharing (List Transition) Nat :=
  let hash := transitions.foldl
    (fun hash t => mix (mix (mix hash t.bytes.first) t.bytes.last) t.next) hashStart
  share (hash.toNat % 10000) transitions (8 * transitions.length)

/-- A state with one transition. -/
def stepState (transition : Transition) : Sharing Transition Nat :=
  let hash := mix (mix (mix hashStart transition.next) transition.bytes.first)
    transition.bytes.last
  share (hash.toNat % 1000) transition 0

/-- Sequences that begin with the same bytes put together: the bytes, and what
follows them. -/
def groups (sequences : List (List ByteRange)) : List (ByteRange × List (List ByteRange)) :=
  sequences.foldr (fun sequence groups =>
    match sequence, groups with
    | [], groups => groups
    | bytes :: rest, (first, rests) :: more =>
      if bytes = first then (first, rest :: rests) :: more
      else (bytes, [rest]) :: (first, rests) :: more
    | bytes :: rest, [] => [(bytes, [rest])]) []

/-- The states for sequences that are read from their first bytes on. -/
def forwardStates (target : Nat) : Nat → List (List ByteRange) → Sharing (List Transition) Nat
  | 0, _ => return target
  | length + 1, sequences => do
    let transitions ← (groups sequences).mapM fun (bytes, rests) => do
      let next ← if rests = [[]] then pure target else forwardStates target length rests
      return ⟨bytes, next⟩
    branchState transitions

/-- The states for a sequence that is read from its last byte back. -/
def backwardStates (target : Nat) : List ByteRange → Sharing Transition Nat
  | [] => return target
  | bytes :: rest => do backwardStates (← stepState ⟨bytes, target⟩) rest

/-- One character of a set. The characters of ASCII need one state only. -/
def buildSet (direction : Direction) (ranges : Unicode.CodeSet)
    (sequences : List (List ByteRange)) : Building Exit := do
  if ranges.all (·.2 < 128) then
    Building.take 2 (8 * ranges.length)
  else
    match direction with
    | .forward =>
      let target ← Building.state 0
      let _ ← (forwardStates target 4 sequences).run {}
    | .backward =>
      let _ ← Building.state 0
      let target ← Building.state 0
      let _ ← (sequences.forM fun sequence => do
        let _ ← backwardStates target sequence
        liftM (Building.links 1)).run {}
  return .plain

/-! ## Literal branches -/

/-- What begins with each byte, without it; the bytes come in the order in which
they are first seen. -/
def tails : List (List Nat) → List (Nat × List (List Nat))
  | [] => []
  | [] :: rest => tails rest
  | (byte :: text) :: rest =>
    let others := tails rest
    match others.find? (·.1 = byte) with
    | some (_, texts) => (byte, text :: texts) :: others.filter (·.1 ≠ byte)
    | none => (byte, [text]) :: others

/-- The room for a tree of texts no longer than a length. What comes after the
end of a text stands apart from what comes before it. -/
def treeExtent : Nat → List (List Nat) → Extent
  | 0, _ => .zero
  | length + 1, texts =>
    let runs := texts.splitOnP (· = [])
    let repeats := (texts.takeWhile (· = [])).length - 1
    let branches := (runs.map tails).filter (· ≠ [])
    let links := branches.length + (runs.length - 1 - repeats)
    branches.foldl (fun extent branch =>
      let inner := branch.foldl (fun extent (_, texts) =>
        if texts.all (· = []) then extent
        else
          let tree := treeExtent length texts
          ⟨extent.states + tree.states, extent.extra + tree.extra⟩) extent
      ⟨inner.states + 1, inner.extra + if branch.length = 1 then 0 else 8 * branch.length⟩)
      ⟨1, 4 * links⟩

/-- The bytes of a literal as they are read. -/
def literalBytes (direction : Direction) (codes : List Nat) : List Nat :=
  let bytes := codes.flatMap utf8Bytes
  match direction with
  | .forward => bytes
  | .backward => bytes.reverse

/-- Branches that are all literal. -/
def buildTree (direction : Direction) (literals : List (List Nat)) : Building Exit := do
  let texts := literals.map (literalBytes direction)
  let tree := treeExtent ((texts.map List.length).foldl max 0 + 1) texts
  Building.take (1 + tree.states) tree.extra
  return .plain

/-! ## Repetition -/

/-- A part made so many times more. -/
def buildMore (part : Building Exit) : Nat → Exit → Building Exit
  | 0, exit => return exit
  | count + 1, exit => do
    let next ← part
    exit.link
    buildMore part count next

/-- A part made so many times. -/
def buildTimes (part : Building Exit) : Nat → Building Exit
  | 0 => do
    let _ ← Building.state 0
    return .plain
  | count + 1 => do buildMore part count (← part)

/-- A part made at most so many times more. -/
def buildOptional (part : Building Exit) : Nat → Exit → Building Exit
  | 0, exit => do
    exit.link
    return .plain
  | count + 1, exit => do
    let _ ← Building.state 0
    let next ← part
    exit.link
    Building.links 2
    buildOptional part count next

/-- A part made any number of times. -/
def buildAny (part : Building Exit) (takesText : Bool) : Building Exit := do
  if takesText then
    let _ ← Building.state 0
    Building.links 1
    (← part).link
    return .branch
  else
    let exit ← part
    Building.take 3 (4 * 4)
    exit.link
    return .plain

def buildRepetition (part : Building Exit) (takesText : Bool) (min : Nat) (max : Option Nat) :
    Building Exit := do
  match min, max with
  | 0, some 1 =>
    let _ ← Building.state 0
    let exit ← part
    Building.take 1 (2 * 4)
    exit.link
    return .plain
  | 0, none => buildAny part takesText
  | 1, none =>
    let exit ← part
    Building.take 1 4
    exit.link
    return .branch
  | min + 1, none =>
    let before ← buildTimes part min
    let exit ← part
    Building.take 1 4
    before.link
    exit.link
    return .branch
  | min, some max =>
    let exit ← buildTimes part min
    if min = max then return exit
    let _ ← Building.state 0
    buildOptional part (max - min) exit

/-! ## Patterns -/

namespace Simplified

mutual

/-- Whether a pattern matches only where a text starts, or ends. -/
def isBound (direction : Direction) : Simplified → Bool
  | .literal _ => false
  | .set _ _ => false
  | .anchor condition =>
    condition = match direction with
      | .forward => .start
      | .backward => .finish
  | .repetition part min _ _ => 0 < min && part.isBound direction
  | .capture part => part.isBound direction
  | .concat parts =>
    match direction with
    | .forward => startsBound parts
    | .backward => (endsBound parts).1
  | .alternation branches => allBound direction branches

/-- Whether one of the parts matches only where a text starts, with no text taken
before it. -/
def startsBound : List Simplified → Bool
  | [] => false
  | part :: rest => part.isBound .forward || (part.isWidthless && startsBound rest)

/-- Whether one of the parts matches only where a text ends, with no text taken
after it; and whether the parts take no text at all. -/
def endsBound : List Simplified → Bool × Bool
  | [] => (false, true)
  | part :: rest =>
    let (isBound, isWidthless) := endsBound rest
    (isBound || (isWidthless && part.isBound .backward), isWidthless && part.isWidthless)

def allBound (direction : Direction) : List Simplified → Bool
  | [] => true
  | branch :: rest => branch.isBound direction && allBound direction rest

end

/-- The codes of a pattern that is literal. -/
def literal? : Simplified → Option (List Nat)
  | .literal codes => some codes
  | _ => none

mutual

/-- The part of an automaton for a pattern. -/
def build (direction : Direction) : Simplified → Building Exit
  | .literal codes => do
    Building.take (literalBytes direction codes).length 0
    return .plain
  | .set ranges sequences => buildSet direction ranges sequences
  | .anchor _ => do
    let _ ← Building.state 0
    return .plain
  | .repetition part min max _ =>
    buildRepetition (part.build direction) ((part.minBytes?.getD 0) != 0) min max
  | .capture part =>
    match direction with
    | .forward => do
      let _ ← Building.state 0
      let exit ← part.build direction
      let _ ← Building.state 0
      exit.link
      return .plain
    | .backward => part.build direction
  | .concat parts => do
    match ← buildAll direction parts with
    | some exit => return exit
    | none =>
      let _ ← Building.state 0
      return .plain
  | .alternation [] => do
    let _ ← Building.state 0
    return .plain
  | .alternation [branch] => branch.build direction
  | .alternation (first :: second :: rest) =>
    match (first :: second :: rest).mapM literal? with
    | some literals => buildTree direction literals
    | none => do
      let firstExit ← first.build direction
      let secondExit ← second.build direction
      Building.take 2 (2 * 4)
      firstExit.link
      secondExit.link
      buildBranches direction rest
      return .plain

/-- The parts in the order in which they are read. -/
def buildAll (direction : Direction) : List Simplified → Building (Option Exit)
  | [] => return none
  | part :: rest =>
    match direction with
    | .forward => do
      let exit ← part.build direction
      match ← buildAll direction rest with
      | none => return some exit
      | some last =>
        exit.link
        return some last
    | .backward => do
      match ← buildAll direction rest with
      | none => return some (← part.build direction)
      | some exit =>
        let last ← part.build direction
        exit.link
        return some last

/-- Branches beyond the second. -/
def buildBranches (direction : Direction) : List Simplified → Building Unit
  | [] => return ()
  | branch :: rest => do
    let exit ← branch.build direction
    Building.links 1
    exit.link
    buildBranches direction rest

end

/-- The whole automaton. Unless it is bound to one place, it can skip bytes
first; forward, it marks where the match starts and ends. -/
def automaton (direction : Direction) (pattern : Simplified) : Building Unit := do
  if pattern.isBound direction then
    Building.take 1 0
  else
    Building.take 3 (8 + 2 * 4)
  let marks := match direction with
    | .forward => 1
    | .backward => 0
  Building.take marks 0
  let exit ← pattern.build direction
  exit.link
  Building.take (marks + 1) 0

end Simplified

/-- Whether there is room for the automata of a pattern. -/
def fits (pattern : Regex) : Bool :=
  let pattern := pattern.simplify
  [Direction.forward, .backward].all fun direction =>
    ((pattern.automaton direction).run .zero).isSome

/-- The pattern that a text writes, if it writes one and there is room for it. -/
def read? (text : String) : Option Regex := do
  let pattern ← parse? text
  if pattern.fits then return pattern else none

end Ambient.Regex
