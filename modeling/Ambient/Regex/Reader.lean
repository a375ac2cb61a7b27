import Ambient.Regex.Basic
import Ambient.Text.Blank
import Ambient.Unicode.Latest

namespace Ambient.Regex

/-!
# Reading patterns

A pattern is read from left to right. Flags that are set inside a group last to
its end, and what they mean is settled as each part is read. A pattern that
cannot be read is not looked into any further.
-/

structure Flags where
  ignoreCase : Bool := false
  multiLine : Bool := false
  dotAll : Bool := false
  ungreedy : Bool := false
  unicode : Bool := true
  crlf : Bool := false
  /-- Blanks and comments in the pattern are skipped. -/
  spaced : Bool := false
deriving DecidableEq, Repr

/-- The pattern behind blanks and comments. -/
def skipBlanks (inComment : Bool) : List Char → List Char
  | [] => []
  | c :: cs =>
    if inComment then skipBlanks (c ≠ '\n') cs
    else if Text.isBlank c then skipBlanks false cs
    else if c = '#' then skipBlanks true cs
    else c :: cs

namespace Flags

/-- The pattern behind what the flags say to skip. -/
def skip (flags : Flags) (cs : List Char) : List Char :=
  if flags.spaced then skipBlanks false cs else cs

/-- A set as it is matched where case may be ignored. -/
def fold (flags : Flags) (set : CharSet) : CharSet :=
  if !flags.ignoreCase then set
  else if flags.unicode then .folded set
  else .asciiFolded set

/-- The complement of a set. Outside of Unicode it would hold parts of
characters, so there is none. -/
def negate? (flags : Flags) (negated : Bool) (set : CharSet) : Option CharSet :=
  if !negated then some set
  else if flags.unicode then some (.complement set)
  else none

def alphabet (flags : Flags) : Alphabet :=
  if flags.unicode then .unicode else .ascii

/-- A class by its letter. -/
def perl? (flags : Flags) (letter : Char) : Option CharSet :=
  let base := match letter.toLower with
    | 'd' => if flags.unicode then CharSet.digit else (CharSet.ascii? "digit").getD .empty
    | 's' => if flags.unicode then CharSet.space else (CharSet.ascii? "space").getD .empty
    | _ => flags.alphabet.word
  flags.negate? letter.isUpper base

end Flags

/-- What an escape stands for. -/
inductive Escape
  /-- A character; `isByte` is set when it was given by two digits. -/
  | literal (c : Char) (isByte : Bool)
  | set (set : CharSet)
  | anchor (anchor : Anchor)

/-- The value of a hexadecimal digit. -/
def hexValue? (c : Char) : Option Nat :=
  if c.isDigit then some (c.toNat - '0'.toNat)
  else if 'a' ≤ c ∧ c ≤ 'f' then some (c.toNat - 'a'.toNat + 10)
  else if 'A' ≤ c ∧ c ≤ 'F' then some (c.toNat - 'A'.toNat + 10)
  else none

/-- The character of a number, if there is one. -/
def charOf? (n : Nat) : Option Char :=
  if n.isValidChar then some (Char.ofNat n) else none

/-- A number of so many hexadecimal digits. -/
def fixedHex (flags : Flags) : Nat → Nat → List Char → Option (Nat × List Char)
  | 0, n, cs => some (n, cs)
  | _ + 1, _, [] => none
  | digits + 1, n, c :: cs => do
    let d ← hexValue? c
    fixedHex flags digits (16 * n + d) (flags.skip cs)

/-- The characters up to a closing brace, which is skipped as well. -/
def bracedText (flags : Flags) : Nat → List Char → Option (List Char × List Char)
  | 0, _ => none
  | _ + 1, [] => none
  | fuel + 1, c :: cs =>
    if c = '\x7d' then some ([], cs)
    else do
      let (text, rest) ← bracedText flags fuel (flags.skip cs)
      return (c :: text, rest)

/-- The number that hexadecimal digits write. -/
def hexNumber? (digits : List Char) : Option Nat :=
  digits.foldlM (fun n c => (hexValue? c).map (16 * n + ·)) 0

/-- A character by its number, behind the letter that announces it. -/
def hexEscape (flags : Flags) (letter : Char) (cs : List Char) : Option (Escape × List Char) :=
  match flags.skip cs with
  | '\x7b' :: cs => do
    let (digits, rest) ← bracedText flags (cs.length + 1) (flags.skip cs)
    if digits = [] then none
    let c ← charOf? (← hexNumber? digits)
    return (.literal c false, flags.skip rest)
  | cs => do
    let digits := if letter = 'x' then 2 else if letter = 'u' then 4 else 8
    let (n, rest) ← fixedHex flags digits 0 cs
    return (.literal (← charOf? n) (letter = 'x'), rest)

/-- The text before the first place where `mark` stands, and the text behind. -/
def cutAt? (mark : List Char) : List Char → Option (List Char × List Char)
  | [] => none
  | c :: cs =>
    if mark.isPrefixOf (c :: cs) then some ([], (c :: cs).drop mark.length)
    else (cutAt? mark cs).map fun (before, behind) => (c :: before, behind)

/-- A named set, and whether it is given as what the characters are not. -/
def namedSet? (text : List Char) : Option (CharSet × Bool) :=
  match cutAt? ['!', '='] text, cutAt? [':'] text, cutAt? ['='] text with
  | some (name, value), _, _ =>
    (CharSet.valued? (String.ofList name) (String.ofList value)).map (·, true)
  | none, some (name, value), _ =>
    (CharSet.valued? (String.ofList name) (String.ofList value)).map (·, false)
  | none, none, some (name, value) =>
    (CharSet.valued? (String.ofList name) (String.ofList value)).map (·, false)
  | none, none, none => (CharSet.named? (String.ofList text)).map (·, false)

/-- A set by its name, behind the letter that announces it. -/
def namedEscape (flags : Flags) (letter : Char) (cs : List Char) : Option (Escape × List Char) := do
  let (set, inverted, rest) ←
    match flags.skip cs with
    | [] => none
    | '\x7b' :: cs => do
      let (name, rest) ← bracedText flags (cs.length + 1) (flags.skip cs)
      let (set, inverted) ← namedSet? name
      some (set, inverted, rest)
    | '\\' :: _ => none
    | c :: cs => do
      let set ← CharSet.named? (String.singleton c)
      some (set, false, flags.skip cs)
  if !flags.unicode then none
  let negated := (letter = 'P') != inverted
  return (.set (← flags.negate? negated (flags.fold set)), rest)

/-- Whether a character may stand in the name of a kind of word boundary. -/
def isBoundaryChar (c : Char) : Bool := c.isAlpha || c = '-'

/-- The name of a kind of word boundary, and what follows its characters. -/
def boundaryName (flags : Flags) : Nat → List Char → List Char × List Char
  | 0, cs => ([], cs)
  | _ + 1, [] => ([], [])
  | fuel + 1, c :: cs =>
    if isBoundaryChar c then
      let (name, rest) := boundaryName flags fuel (flags.skip cs)
      (c :: name, rest)
    else ([], c :: cs)

/-- A word boundary, whose kind may be given in braces. Braces that do not begin
with a name count repetitions. -/
def wordBoundary (flags : Flags) (cs : List Char) : Option (Escape × List Char) :=
  match cs with
  | '\x7b' :: inner =>
    match flags.skip inner with
    | [] => none
    | c :: name =>
      if !isBoundaryChar c then some (.anchor (.wordBoundary flags.alphabet), cs)
      else
        match boundaryName flags (name.length + 1) (c :: name) with
        | (name, '\x7d' :: rest) =>
          match String.ofList name with
          | "start" => some (.anchor (.wordStart flags.alphabet), rest)
          | "end" => some (.anchor (.wordFinish flags.alphabet), rest)
          | "start-half" => some (.anchor (.noWordBefore flags.alphabet), rest)
          | "end-half" => some (.anchor (.noWordAfter flags.alphabet), rest)
          | _ => none
        | _ => none
  | _ => some (.anchor (.wordBoundary flags.alphabet), cs)

/-- Whether an escaped character stands for itself: all of ASCII does, except
for letters, digits and angle brackets. -/
def isEscapable (c : Char) : Bool :=
  c.toNat < 128 && !c.isAlphanum && c ≠ '<' && c ≠ '>'

/-- An escape, behind its backslash. -/
def escape (flags : Flags) : List Char → Option (Escape × List Char)
  | [] => none
  | c :: cs =>
    if c.isDigit then none
    else if c = 'x' || c = 'u' || c = 'U' then hexEscape flags c cs
    else if c = 'p' || c = 'P' then namedEscape flags c cs
    else if ['d', 's', 'w', 'D', 'S', 'W'].contains c then
      (flags.perl? c).map fun set => (.set set, cs)
    else if isEscapable c then some (.literal c false, cs)
    else match c with
      | 'a' => some (.literal '\x07' false, cs)
      | 'f' => some (.literal '\x0c' false, cs)
      | 't' => some (.literal '\t' false, cs)
      | 'n' => some (.literal '\n' false, cs)
      | 'r' => some (.literal '\r' false, cs)
      | 'v' => some (.literal '\x0b' false, cs)
      | 'A' => some (.anchor .start, cs)
      | 'z' => some (.anchor .finish, cs)
      | 'b' => wordBoundary flags cs
      | 'B' => some (.anchor (.noWordBoundary flags.alphabet), cs)
      | '<' => some (.anchor (.wordStart flags.alphabet), cs)
      | '>' => some (.anchor (.wordFinish flags.alphabet), cs)
      | _ => none

/-! ## Bracketed sets -/

inductive SetOperator
  | inter
  | diff
  | symmDiff

/-- A set, and how deep the sets in it are nested. -/
structure NestedSet where
  set : CharSet
  depth : Nat := 0

namespace NestedSet

/-- How deep items next to one another are nested. -/
def nesting (items : List NestedSet) : Nat :=
  match items with
  | [] => 0
  | items => items.foldl (fun depth item => max depth item.depth) 0 + 1

/-- Items next to one another, the newest first. One item alone is not nested
any deeper. -/
def join (items : List NestedSet) : NestedSet :=
  match items with
  | [item] => item
  | items =>
    ⟨CharSet.unions (items.reverse.map set), nesting items⟩

/-- Two sets with an operator between them. -/
def combine (left : NestedSet) (flags : Flags) (operator : SetOperator) (right : NestedSet) : NestedSet :=
  let a := flags.fold left.set
  let b := flags.fold right.set
  let set := match operator with
    | .inter => CharSet.inter a b
    | .diff => .diff a b
    | .symmDiff => .symmDiff a b
  ⟨set, max left.depth right.depth + 1⟩

end NestedSet

/-- A bracketed set that is still open: its items, newest first, and an operator
that waits for its right side. -/
structure OpenSet where
  negated : Bool
  items : List NestedSet
  pending : Option (SetOperator × NestedSet)

namespace OpenSet

/-- What an open set amounts to so far. -/
def value (set : OpenSet) (flags : Flags) : NestedSet :=
  let right := NestedSet.join set.items
  match set.pending with
  | none => right
  | some (operator, left) => left.combine flags operator right

def add (set : OpenSet) (item : NestedSet) : OpenSet :=
  { set with items := item :: set.items }

/-- The set at its closing bracket. -/
def close? (set : OpenSet) (flags : Flags) : Option NestedSet := do
  let value := set.value flags
  return ⟨← flags.negate? set.negated (flags.fold value.set), value.depth + 1⟩

end OpenSet

/-- Literal dashes at the start of a set. -/
def leadingDashes (flags : Flags) (set : OpenSet) : Nat → List Char → OpenSet × List Char
  | 0, cs => (set, cs)
  | fuel + 1, '-' :: cs =>
    leadingDashes flags (set.add ⟨CharSet.single '-', 0⟩) fuel (flags.skip cs)
  | _ + 1, cs => (set, cs)

/-- The start of a set, behind its opening bracket. A dash or a closing bracket
stands for itself there. -/
def openSet (flags : Flags) (cs : List Char) : Option (OpenSet × List Char) :=
  let cs := flags.skip cs
  let negated := cs.head? == some '^'
  let cs := if negated then flags.skip (cs.drop 1) else cs
  let (set, cs) := leadingDashes flags ⟨negated, [], none⟩ cs.length cs
  match set.items, cs with
  | _, [] => none
  | [], ']' :: cs =>
    let cs := flags.skip cs
    if cs = [] then none else some (set.add ⟨CharSet.single ']', 0⟩, cs)
  | _, cs => some (set, cs)

/-- A class of ASCII characters such as `[:alpha:]`, behind its opening
bracket. -/
def asciiClass? (flags : Flags) (cs : List Char) : Option (Option CharSet × List Char) :=
  match cs with
  | ':' :: cs =>
    let negated := cs.head? == some '^'
    let cs := if negated then cs.drop 1 else cs
    let name := cs.takeWhile (· ≠ ':')
    match cs.dropWhile (· ≠ ':') with
    | ':' :: ']' :: rest =>
      (CharSet.ascii? (String.ofList name)).map fun set =>
        (flags.negate? negated (flags.fold set), rest)
    | _ => none
  | _ => none

/-- One item of a set before it is known whether it begins a range. -/
def setItem (flags : Flags) : List Char → Option (Escape × List Char)
  | [] => none
  | '\\' :: cs => escape flags cs
  | c :: cs => some (.literal c false, cs)

/-- A character of a set. Outside of Unicode it has to be of ASCII. -/
def setChar? (flags : Flags) : Escape → Option Char
  | .literal c _ => if flags.unicode || c.toNat < 128 then some c else none
  | _ => none

/-- The character that decides what a dash means, behind the dash. The first
character of a comment that is no blank is taken for it. -/
def peekBehind (flags : Flags) : List Char → Option Char
  | [] => none
  | _ :: cs =>
    if !flags.spaced then cs.head?
    else
      let rest := match cs.dropWhile Text.isBlank with
        | '#' :: rest => rest.dropWhile Text.isBlank
        | rest => rest
      (if rest = [] then cs else rest).head?

/-- An item or a range of a set. -/
def setRange (flags : Flags) (cs : List Char) : Option (CharSet × List Char) := do
  let (first, rest) ← setItem flags cs
  let rest := flags.skip rest
  if rest = [] then none
  let next := peekBehind flags rest
  if rest.head? ≠ some '-' || next = some ']' || next = some '-' then
    match first with
    | .set set => some (set, rest)
    | first => do return (CharSet.single (← setChar? flags first), rest)
  else
    let (last, rest) ← setItem flags (flags.skip (rest.drop 1))
    let first ← setChar? flags first
    let last ← setChar? flags last
    if first ≤ last then some (CharSet.range first last, rest) else none

/-- A set behind its opening bracket. The sets around it that are still open
come with it, the innermost first. -/
def readSet (flags : Flags) :
    Nat → OpenSet → List OpenSet → List Char → Option (NestedSet × List Char)
  | 0, _, _, _ => none
  | fuel + 1, set, outer, cs =>
    let operator (op : SetOperator) (rest : List Char) : Option (NestedSet × List Char) :=
      readSet flags fuel { set with items := [], pending := some (op, set.value flags) } outer rest
    match flags.skip cs with
    | [] => none
    | '[' :: rest =>
      match asciiClass? flags rest with
      | some (none, _) => none
      | some (some item, rest) => readSet flags fuel (set.add ⟨item, 0⟩) outer rest
      | none => do
        let (inner, rest) ← openSet flags rest
        readSet flags fuel inner (set :: outer) rest
    | ']' :: rest => do
      let value ← set.close? flags
      match outer with
      | [] => some (value, rest)
      | parent :: outer => readSet flags fuel (parent.add value) outer rest
    | '&' :: '&' :: rest => operator .inter rest
    | '-' :: '-' :: rest => operator .diff rest
    | '~' :: '~' :: rest => operator .symmDiff rest
    | cs => do
      let (item, rest) ← setRange flags cs
      readSet flags fuel (set.add ⟨item, 0⟩) outer rest

/-- A bracketed set, behind its first bracket. -/
def bracketedSet (flags : Flags) (cs : List Char) : Option (NestedSet × List Char) := do
  let (set, rest) ← openSet flags cs
  readSet flags (rest.length + 1) set [] rest

/-! ## Repetition counts -/

def maxCount : Nat := 4294967295

/-- A decimal number with blanks around it. -/
def decimalDigits (flags : Flags) : Nat → List Char → List Char × List Char
  | 0, cs => ([], cs)
  | _ + 1, [] => ([], [])
  | fuel + 1, c :: cs =>
    if c.isDigit then
      let (digits, rest) := decimalDigits flags fuel (flags.skip cs)
      (c :: digits, rest)
    else ([], c :: cs)

def decimal? (flags : Flags) (cs : List Char) : Option Nat × List Char :=
  let cs := cs.dropWhile Text.isBlank
  let (digits, rest) := decimalDigits flags (cs.length + 1) cs
  let n := digits.foldl (fun n c => 10 * n + (c.toNat - '0'.toNat)) 0
  let rest := flags.skip (rest.dropWhile Text.isBlank)
  (if digits = [] || maxCount < n then none else some n, rest)

/-- A count in braces, behind the opening brace. -/
def count (flags : Flags) (cs : List Char) : Option ((Nat × Option Nat) × List Char) := do
  let (first, rest) := decimal? flags (flags.skip cs)
  let min ← first
  match rest with
  | '\x7d' :: rest => some ((min, some min), rest)
  | ',' :: rest =>
    match flags.skip rest with
    | '\x7d' :: rest => some ((min, none), rest)
    | rest =>
      let (second, rest) := decimal? flags rest
      let max ← second
      match rest with
      | '\x7d' :: rest => if min ≤ max then some ((min, some max), rest) else none
      | _ => none
  | _ => none

/-- Whether a question mark makes a repetition lazy, and the pattern behind it. -/
def lazyMark (cs : List Char) : Bool × List Char :=
  match cs with
  | '?' :: rest => (true, rest)
  | cs => (false, cs)

/-! ## Groups -/

/-- Flags in a group: the letters in order, a minus among them. -/
def flagLetters : List Char → Option (List Char × List Char)
  | [] => none
  | c :: cs =>
    if c = ':' || c = ')' then some ([], c :: cs)
    else if ['i', 'm', 's', 'U', 'u', 'R', 'x', '-'].contains c then do
      let (letters, rest) ← flagLetters cs
      if letters.contains c || (c = '-' && letters = []) then none
      return (c :: letters, rest)
    else none

def Flags.set (flags : Flags) (letter : Char) (on : Bool) : Flags :=
  match letter with
  | 'i' => { flags with ignoreCase := on }
  | 'm' => { flags with multiLine := on }
  | 's' => { flags with dotAll := on }
  | 'U' => { flags with ungreedy := on }
  | 'u' => { flags with unicode := on }
  | 'R' => { flags with crlf := on }
  | _ => { flags with spaced := on }

/-- The flags after letters; those behind a minus are taken away. -/
def Flags.apply (flags : Flags) (on : Bool) : List Char → Flags
  | [] => flags
  | '-' :: rest => flags.apply false rest
  | letter :: rest => (flags.set letter on).apply on rest

/-- Whether a character may stand in the name of a group. -/
def isNameChar (isFirst : Bool) (c : Char) : Bool :=
  c = '_' || Unicode.letters.contains c.toNat ||
    (!isFirst && (Unicode.numbers.contains c.toNat || c = '.' || c = '[' || c = ']'))

/-- The name of a group, behind its opening angle bracket. -/
def groupName (cs : List Char) : Option (List Char × List Char) :=
  let name := cs.takeWhile (· ≠ '>')
  match name, cs.dropWhile (· ≠ '>') with
  | first :: others, '>' :: rest =>
    if isNameChar true first && others.all (isNameChar false) then some (name, rest) else none
  | _, _ => none

/-- A group that is still open: the flags outside of it, and what stands before
it. -/
structure OpenGroup where
  isCaptured : Bool
  flags : Flags
  branches : List Regex
  items : List Regex

/-- A reader of patterns: the open groups, the branches and the items of the
innermost one, newest first, and the names of groups so far. -/
structure PatternReader where
  flags : Flags := {}
  groups : List OpenGroup := []
  branches : List Regex := []
  items : List Regex := []
  names : List (List Char) := []

/-- Items one after the other; the newest comes first. -/
def sequence (items : List Regex) : Regex :=
  match items with
  | [] => .empty
  | [item] => item
  | items => .concat items.reverse

/-- Branches with a last one; the newest comes first. -/
def choice (branches : List Regex) (last : Regex) : Regex :=
  match branches with
  | [] => last
  | branches => .alternation (branches.reverse ++ [last])

namespace PatternReader

def push (r : PatternReader) (item : Regex) : PatternReader :=
  { r with items := item :: r.items }

/-- What stands in the innermost group. -/
def content (r : PatternReader) : Regex := choice r.branches (sequence r.items)

def alternate (r : PatternReader) : PatternReader :=
  { r with branches := sequence r.items :: r.branches, items := [] }

/-- At the start of a group with these flags inside. -/
def enter (r : PatternReader) (isCaptured : Bool) (flags : Flags) : PatternReader :=
  { r with flags, groups := ⟨isCaptured, r.flags, r.branches, r.items⟩ :: r.groups,
           branches := [], items := [] }

/-- At the end of a group. -/
def leave? (r : PatternReader) : Option PatternReader :=
  match r.groups with
  | [] => none
  | outer :: groups =>
    some { r with flags := outer.flags, groups, branches := outer.branches,
                  items := .group r.content outer.isCaptured :: outer.items }

/-- The last item repeated, behind the count. Flags cannot be repeated, and an
item has to be there. -/
def repeatLast? (r : PatternReader) (min : Nat) (max : Option Nat) (cs : List Char) :
    Option (PatternReader × List Char) :=
  let (isLazy, rest) := lazyMark cs
  match r.items with
  | [] => none
  | .empty :: _ => none
  | item :: items =>
    let isGreedy := isLazy == r.flags.ungreedy
    some ({ r with items := .repetition item min max isGreedy :: items }, rest)

/-- A literal character. Outside of Unicode one that is given as a byte has to be
of ASCII. -/
def literal? (r : PatternReader) (c : Char) (isByte : Bool) : Option PatternReader :=
  if !r.flags.unicode && isByte && 128 ≤ c.toNat then none
  else some (r.push (.char (r.flags.fold (CharSet.single c))))

/-- Any character, as a rule without line ends. -/
def dot? (r : PatternReader) : Option PatternReader :=
  if !r.flags.unicode then none
  else
    let excluded : Unicode.CodeSet :=
      if r.flags.dotAll then [] else if r.flags.crlf then [(10, 10), (13, 13)] else [(10, 10)]
    some (r.push (.char (.complement (.codes excluded))))

def lineStart (r : PatternReader) : PatternReader :=
  r.push (.anchor <|
    if !r.flags.multiLine then .start else if r.flags.crlf then .crlfStart else .lineStart)

def lineFinish (r : PatternReader) : PatternReader :=
  r.push (.anchor <|
    if !r.flags.multiLine then .finish else if r.flags.crlf then .crlfFinish else .lineFinish)

/-- A group or a setting of flags, behind its opening parenthesis. Looking ahead
and behind is not supported. -/
def openGroup (r : PatternReader) (cs : List Char) : Option (PatternReader × List Char) :=
  let named (cs : List Char) : Option (PatternReader × List Char) := do
    let (name, rest) ← groupName cs
    if r.names.contains name then none
    return ({ r.enter true r.flags with names := name :: r.names }, rest)
  match r.flags.skip cs with
  | '?' :: '=' :: _ => none
  | '?' :: '!' :: _ => none
  | '?' :: '<' :: '=' :: _ => none
  | '?' :: '<' :: '!' :: _ => none
  | '?' :: 'P' :: '<' :: cs => named cs
  | '?' :: '<' :: cs => named cs
  | '?' :: cs => do
    let (letters, rest) ← flagLetters cs
    let flags := r.flags.apply true letters
    match rest with
    | ')' :: rest =>
      if letters = [] then none else some ({ r with flags, items := .empty :: r.items }, rest)
    | ':' :: rest => some (r.enter false flags, rest)
    | _ => none
  | cs => some (r.enter true r.flags, cs)

/-- One part of a pattern. -/
def step (r : PatternReader) (c : Char) (cs : List Char) : Option (PatternReader × List Char) :=
  match c with
  | '(' => r.openGroup cs
  | ')' => r.leave?.map (·, cs)
  | '|' => some (r.alternate, cs)
  | '[' => do
    let (nested, rest) ← bracketedSet r.flags cs
    return (r.push (.bracketed nested.set nested.depth), rest)
  | '?' => r.repeatLast? 0 (some 1) cs
  | '*' => r.repeatLast? 0 none cs
  | '+' => r.repeatLast? 1 none cs
  | '\x7b' => do
    let ((min, max), rest) ← count r.flags cs
    r.repeatLast? min max (r.flags.skip rest)
  | '\\' => do
    match ← escape r.flags cs with
    | (.literal c isByte, rest) => return (← r.literal? c isByte, rest)
    | (.set set, rest) => return (r.push (.char set), rest)
    | (.anchor condition, rest) => return (r.push (.anchor condition), rest)
  | '.' => r.dot?.map (·, cs)
  | '^' => some (r.lineStart, cs)
  | '$' => some (r.lineFinish, cs)
  | c => (r.literal? c false).map (·, cs)

/-- The rest of a pattern. Every step takes a character at least. -/
def run : Nat → PatternReader → List Char → Option Regex
  | 0, _, _ => none
  | fuel + 1, r, cs =>
    match r.flags.skip cs with
    | [] => if r.groups = [] then some r.content else none
    | c :: cs => do
      let (r, rest) ← r.step c cs
      run fuel r rest

end PatternReader

/-- How deep a pattern may be nested. -/
def maxDepth : Nat := 250

/-- The pattern that a text writes, if it writes one. -/
def parse? (text : String) : Option Regex := do
  let cs := text.toList
  let pattern ← PatternReader.run (cs.length + 1) {} cs
  if maxDepth < pattern.depth then none
  return pattern

end Ambient.Regex
