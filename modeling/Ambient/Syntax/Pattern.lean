import Ambient.Syntax.Type

namespace Ambient

/-!
# Binding patterns

What stands in a parameter list or after `const`: a name, a pattern with a
default, a rest element or a destructured object.
-/

mutual

/-- A binding pattern. -/
inductive Pattern
  | identifier (id : Identifier)
  /-- `left = default`; the default itself is not kept. -/
  | assignment (origin : Origin) (left : Pattern)
  | rest (element : RestElement)
  | object (pattern : ObjectPattern)
  | unsupported (kind : String)

/-- `...argument`. A type may be on the element or on its argument. -/
structure RestElement where
  origin : Origin
  argument : Pattern
  type : Option FlowType

/-- `{ a, b: c }` with an annotation on the whole. -/
structure ObjectPattern where
  origin : Origin
  members : List PatternMember
  type : Option FlowType

/-- A member of a destructured object. -/
inductive PatternMember
  | property (origin : Origin) (key : PropertyKey) (value : Pattern) (computed : Bool)
  | rest (element : RestElement)
  | unsupported (kind : String)

end

end Ambient
