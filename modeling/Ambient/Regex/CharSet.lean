import Ambient.Unicode.Age
import Ambient.Unicode.Boundary
import Ambient.Unicode.Category
import Ambient.Unicode.Folding
import Ambient.Unicode.Property
import Ambient.Unicode.Script

namespace Ambient.Regex

/-!
# Sets of characters

What one place of a pattern matches. Sets are combined as the pattern combines
them, and closed under a change of case where the pattern asks for it.
-/

/-- A set of characters by their code points. -/
inductive CharSet
  | codes (set : Unicode.CodeSet)
  | complement (set : CharSet)
  | union (a b : CharSet)
  | inter (a b : CharSet)
  | diff (a b : CharSet)
  | symmDiff (a b : CharSet)
  /-- All characters that differ only in case from one in the set. -/
  | folded (set : CharSet)
  /-- The same for the letters of the ASCII alphabet only. -/
  | asciiFolded (set : CharSet)

/-- The letters that differ from an ASCII letter only in case. -/
def asciiVariants (code : Nat) : List Nat :=
  if 65 ≤ code ∧ code ≤ 90 then [code, code + 32]
  else if 97 ≤ code ∧ code ≤ 122 then [code, code - 32]
  else [code]

namespace CharSet

def empty : CharSet := .codes []

def contains : CharSet → Nat → Bool
  | .codes set, code => set.contains code
  | .complement set, code => !set.contains code
  | .union a b, code => a.contains code || b.contains code
  | .inter a b, code => a.contains code && b.contains code
  | .diff a b, code => a.contains code && !b.contains code
  | .symmDiff a b, code => a.contains code != b.contains code
  | .folded set, code => (Unicode.caseVariants code).any set.contains
  | .asciiFolded set, code => (asciiVariants code).any set.contains

/-- The set as ordered ranges. -/
def ranges : CharSet → Unicode.CodeSet
  | .codes set => set.ordered
  | .complement set => set.ranges.complement
  | .union a b => (a.ranges ++ b.ranges).ordered
  | .inter a b => (a.ranges.complement ++ b.ranges.complement).ordered.complement
  | .diff a b => (a.ranges.complement ++ b.ranges).ordered.complement
  | .symmDiff a b =>
    ((a.ranges.complement ++ b.ranges).ordered.complement ++
      (b.ranges.complement ++ a.ranges).ordered.complement).ordered
  | .folded set =>
    let ranges := set.ranges
    let cased := Unicode.casedCodes.filter ranges.contains
    (ranges ++ (cased.flatMap Unicode.caseVariants).map fun code => (code, code)).ordered
  | .asciiFolded set =>
    let ranges := set.ranges
    let cased := (List.range 128).filter ranges.contains
    (ranges ++ (cased.flatMap asciiVariants).map fun code => (code, code)).ordered

/-- The characters in any of the sets. -/
def unions : List CharSet → CharSet
  | [] => empty
  | [set] => set
  | set :: rest => .union set (unions rest)

def single (c : Char) : CharSet := .codes [(c.toNat, c.toNat)]

def range (first last : Char) : CharSet := .codes [(first.toNat, last.toNat)]

def ofTable (table : String) : CharSet := .codes (Unicode.ofTable table)

def digit : CharSet := .codes (Unicode.inCategories ["Nd"])

def space : CharSet := ofTable Unicode.whiteSpaceRuns

/-- Letters, marks, digits, connectors and joiners. -/
def word : CharSet :=
  .codes (Unicode.ofTable Unicode.alphabeticRuns ++
    Unicode.inCategories ["Mn", "Mc", "Me", "Nd", "Pc"] ++
    Unicode.ofTable Unicode.joinControlRuns)

/-- The classes of ASCII characters by name. -/
def asciiClasses : List (String × Unicode.CodeSet) := [
  ("alnum", [(48, 57), (65, 90), (97, 122)]),
  ("alpha", [(65, 90), (97, 122)]),
  ("ascii", [(0, 127)]),
  ("blank", [(9, 9), (32, 32)]),
  ("cntrl", [(0, 31), (127, 127)]),
  ("digit", [(48, 57)]),
  ("graph", [(33, 126)]),
  ("lower", [(97, 122)]),
  ("print", [(32, 126)]),
  ("punct", [(33, 47), (58, 64), (91, 96), (123, 126)]),
  ("space", [(9, 13), (32, 32)]),
  ("upper", [(65, 90)]),
  ("word", [(48, 57), (65, 90), (95, 95), (97, 122)]),
  ("xdigit", [(48, 57), (65, 70), (97, 102)])]

/-- A class of ASCII characters, if there is one of this name. -/
def ascii? (name : String) : Option CharSet :=
  (asciiClasses.find? (·.1 = name)).map fun entry => .codes entry.2

/-- A name with its case, its blanks and a leading `is` taken away. -/
def normalName (name : String) : String :=
  let cs := name.toList
  let hasIs := match cs with
    | a :: b :: _ => (a = 'i' || a = 'I') && (b = 's' || b = 'S')
    | _ => false
  let cs := if hasIs then cs.drop 2 else cs
  let cs := (cs.filter fun c => c.toNat < 128 && c ≠ ' ' && c ≠ '_' && c ≠ '-').map Char.toLower
  if hasIs && cs = ['c'] then "isc" else String.ofList cs

/-- The entry whose names include this one. -/
def lookup? {α : Type} (name : String) (entries : List (List String × α)) : Option α :=
  (entries.find? fun entry => entry.1.any fun other => normalName other = name).map (·.2)

/-- The characters of a general category or of a group of categories. -/
def category? (name : String) : Option CharSet :=
  match name with
  | "any" => some (.codes [(0, 0x10FFFF)])
  | "ascii" => some (.codes [(0, 127)])
  | "assigned" => some (.complement (.codes (Unicode.inCategories ["Cn"])))
  | name => (lookup? name Unicode.categoryNames).map fun list => .codes (Unicode.inCategories list)

/-- The script of this name. -/
def findScript? (name : String) : Option Unicode.Script :=
  Unicode.scripts.find? fun script => script.names.any fun other => normalName other = name

/-- The characters that belong to a script. -/
def script? (name : String) : Option CharSet :=
  (findScript? name).map fun script => ofTable script.own

/-- The characters that are used with a script. -/
def scriptExtension? (name : String) : Option CharSet :=
  (findScript? name).map fun script => ofTable (script.used.getD script.own)

/-- The characters that a version knows. -/
def age? (name : String) : Option CharSet :=
  (Unicode.versionsUpTo? (·.any fun other => normalName other = name) Unicode.ages).map
    fun versions => .codes (Unicode.brought versions)

/-- The characters that have a property. -/
def property? (name : String) : Option CharSet :=
  (lookup? name Unicode.propertyNames).map ofTable

/-- The set that a name without a value stands for. Three names are short for a
category although they are short for a property as well. -/
def named? (name : String) : Option CharSet :=
  let name := normalName name
  let property := if ["cf", "sc", "lc"].contains name then none else property? name
  (property.or (category? name)).or (script? name)

/-- The set that a name with a value stands for. -/
def valued? (name value : String) : Option CharSet :=
  let name := normalName name
  let value := normalName value
  if ["gc", "generalcategory"].contains name then category? value
  else if ["sc", "script"].contains name then script? value
  else if ["scx", "scriptextensions"].contains name then scriptExtension? value
  else if name = "age" then age? value
  else if ["gcb", "graphemeclusterbreak"].contains name then
    (lookup? value Unicode.graphemeBreaks).map ofTable
  else if ["wb", "wordbreak"].contains name then (lookup? value Unicode.wordBreaks).map ofTable
  else if ["sb", "sentencebreak"].contains name then
    (lookup? value Unicode.sentenceBreaks).map ofTable
  else none

end CharSet

end Ambient.Regex
