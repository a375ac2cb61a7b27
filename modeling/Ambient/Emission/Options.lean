import Ambient.Declaration.Layout
import Ambient.MemberFilter

namespace Ambient

/-!
# Options for a document
-/

structure Options where
  /-- Name a module by its package instead of its own name. -/
  suppressModulePath : Bool := false
  suppressComments : Bool := false
  /-- Mark the untyped parameters at the end of a list as optional. -/
  markUnspecified : Bool := false
  /-- Write the declarations without a module around them. -/
  suppressAmbient : Bool := false
  filter : MemberFilter := .standard
  /-- Leave out interfaces that have neither members nor bases. -/
  ignoreEmptyInterfaces : Bool := true
  /-- Leave out classes that have no members. -/
  ignoreEmptyClasses : Bool := false

/-- The part of the options that says how declarations are written. -/
def Options.layout (options : Options) : Layout where
  suppressComments := options.suppressComments
  markUnspecified := options.markUnspecified
  suppressAmbient := options.suppressAmbient

end Ambient
