import Ambient.Regex.Extent
import Ambient.Text.Escaped

namespace Ambient

/-!
# Leaving out members

A filter decides by name which members are left out of a document. A pattern may
match anywhere in a name, so it leaves out more than the names that equal it.
-/

/-- A pattern that has been read, with the text it was read from. -/
structure NamePattern where
  source : String
  regex : Regex

/-- The pattern that a text writes, if it writes one. -/
def NamePattern.parse? (source : String) : Option NamePattern :=
  (Regex.read? source).map fun regex => ⟨source, regex⟩

/-- A pattern that cannot be read. -/
structure InvalidPattern where
  source : String
deriving DecidableEq, Repr

def InvalidPattern.message (error : InvalidPattern) : String :=
  "invalid member exclusion pattern `" ++ error.source ++ "`"

/-- Which members are left out. -/
inductive MemberFilter
  | predicate (excludes : String → Bool)
  | pattern (names : NamePattern)
  /-- No member is left out. -/
  | keepAll

namespace MemberFilter

/-- The pattern that is used when none is given: names with a leading
underscore are left out. -/
def defaultSource : String := "^_.*"

def excludes : MemberFilter → String → Bool
  | .predicate excludes, name => excludes name
  | .pattern names, name => names.regex.isMatch name
  | .keepAll, _ => false

/-- The filter of a pattern. -/
def ofPattern (source : String) : Except InvalidPattern MemberFilter :=
  match NamePattern.parse? source with
  | some names => .ok (.pattern names)
  | none => .error ⟨source⟩

/-- The filter that is used when none is given. -/
def standard : MemberFilter :=
  match ofPattern defaultSource with
  | .ok filter => filter
  | .error _ => .predicate fun name => name.toList.head? == some '_'

/-- A filter as messages show it. -/
def shown : MemberFilter → String
  | .predicate _ => "MemberFilter::Predicate(..)"
  | .pattern names => "MemberFilter::Pattern(" ++ Text.escaped names.source ++ ")"
  | .keepAll => "MemberFilter::None"

@[simp] theorem excludes_keepAll (name : String) : keepAll.excludes name = false := rfl

end MemberFilter

end Ambient
