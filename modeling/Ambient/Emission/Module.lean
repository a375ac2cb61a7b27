import Ambient.Collection.Basic
import Ambient.Emission.Statement

namespace Ambient

/-!
# The document of a module

The declarations of the listed statements, in a module that is named for the
module's id or for its package.
-/

namespace Options

/-- The name of a module in its document. -/
def moduleName (options : Options) (root moduleId : String) : String :=
  if options.suppressModulePath then root else moduleId

/-- The declarations of statements, without those that are left out. -/
def declarations (options : Options) (root : String) (statements : List Statement) :
    Traced (List Declaration) :=
  Traced.keep (options.declaration root) statements

/-- The module that is made of statements. -/
def module (options : Options) (root name : String) (statements : List Statement) :
    Traced Declaration := do
  let children ← options.declarations root statements
  return ⟨[], .module name children⟩

/-- The document of a module. There is none if a type cannot be written. -/
def generate (options : Options) (root moduleId : String) (collected : Collected) :
    Traced String := do
  let name := options.moduleName root moduleId
  Traced.note (.generating name)
  let module ← options.module root name collected.statements
  return module.document options.layout

end Options

end Ambient
