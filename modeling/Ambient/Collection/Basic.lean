import Ambient.Emission.Event
import Ambient.Syntax.Statement

namespace Ambient

/-!
# Collecting the statements of a module

A module contributes its imports, its own interfaces and its exports. What is
inside an export or a class is written with it and is not listed on its own,
except that an import or an `export *` is listed wherever it stands.
-/

/-- The lists that a statement can be put on. -/
inductive Bucket
  | imports
  | interfaces
  | exports
deriving DecidableEq, Repr

namespace Statement

/-- The list that a statement is put on, given whether it is inside an export or
a class. -/
def bucket? (nested : Bool) : Statement → Option Bucket
  | .imports _ => some .imports
  | .exportAll _ => some .exports
  | .interface _ => if nested then none else some .interfaces
  | .exportNamed .. => if nested then none else some .exports
  | .exportDefault .. => if nested then none else some .exports
  | .classes _ => if nested then none else some .exports
  | _ => none

/-- Whether what is inside a statement is written with it. -/
def opensScope : Statement → Bool
  | .exportNamed .. => true
  | .exportDefault .. => true
  | .classes _ => true
  | _ => false

/-- A statement with the list it is put on, if there is one. -/
def entry (nested : Bool) (statement : Statement) : List (Bucket × Statement) :=
  match statement.bucket? nested with
  | some bucket => [(bucket, statement)]
  | none => []

/-- A statement and those inside it as they are listed, in source order. -/
def listed (nested : Bool) : Statement → List (Bucket × Statement)
  | .exportNamed origin declaration specifiers source =>
    entry nested (.exportNamed origin declaration specifiers source) ++
      match declaration with
      | some inner => inner.listed true
      | none => []
  | .exportDefault origin declaration =>
    entry nested (.exportDefault origin declaration) ++
      match declaration with
      | some inner => inner.listed true
      | none => []
  | statement => entry nested statement

theorem opensScope_of_nested {statement inner : Statement} (h : statement.nested = some inner) :
    statement.opensScope = true := by
  cases statement <;> simp_all [nested, opensScope]

end Statement

/-- The statements of a module by list. -/
structure Collected where
  imports : List Statement := []
  interfaces : List Statement := []
  exports : List Statement := []

namespace Collected

/-- Puts a statement at the end of a list. -/
def add (collected : Collected) (entry : Bucket × Statement) : Collected :=
  match entry.1 with
  | .imports => { collected with imports := collected.imports ++ [entry.2] }
  | .interfaces => { collected with interfaces := collected.interfaces ++ [entry.2] }
  | .exports => { collected with exports := collected.exports ++ [entry.2] }

def ofListed (entries : List (Bucket × Statement)) : Collected :=
  entries.foldl add {}

/-- All listed statements in the order in which they are written. -/
def statements (collected : Collected) : List Statement :=
  collected.imports ++ collected.interfaces ++ collected.exports

end Collected

namespace Program

/-- The listed statements of a program in source order. -/
def listed (program : Program) : List (Bucket × Statement) :=
  program.body.flatMap (Statement.listed false)

def collect (program : Program) : Collected := .ofListed program.listed

/-- The events of collecting a program. -/
def collectEvents (program : Program) : List Event :=
  program.listed.map fun entry => .collected entry.2.kind

end Program

end Ambient
