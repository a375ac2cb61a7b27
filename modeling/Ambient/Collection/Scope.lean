import Ambient.Collection.Basic

namespace Ambient

/-!
# Collecting while walking

A walk over a program enters and leaves its statements one by one. The collector
keeps the open scopes on a stack, and notices when a scope is left that is not
the innermost one. Statements are told apart by where they stand, not by what
they say.
-/

/-- A statement at its place in a program: its index in the body, then the index
inside each statement around it. -/
structure Occurrence where
  path : List Nat
  statement : Statement

namespace Program

/-- The statement at a path below a statement. -/
def below? : Statement → List Nat → Option Statement
  | statement, [] => some statement
  | statement, index :: path =>
    if index = 0 then statement.nested.bind fun inner => below? inner path else none

/-- The statement at a path. -/
def at? (program : Program) (path : List Nat) : Option Occurrence :=
  match path with
  | [] => none
  | index :: rest =>
    (program.body[index]?).bind fun statement =>
      (below? statement rest).map fun found => ⟨path, found⟩

end Program

/-- A scope was left that could not be left then. -/
inductive CollectError
  | imbalance (expected found : String)
  | emptyStack (found : String)
deriving DecidableEq, Repr

def CollectError.message : CollectError → String
  | .imbalance expected found =>
    "scope stack out of balance: expected to leave " ++ expected ++ ", found " ++ found
  | .emptyStack found => "scope stack out of balance: left " ++ found ++ " without entering it"

/-- A collector on a walk: what it has listed, and the open scopes, the innermost
first. -/
structure ScopeCollector where
  collected : Collected := {}
  scopes : List Occurrence := []

namespace ScopeCollector

def depth (c : ScopeCollector) : Nat := c.scopes.length

/-- At the start of a statement. -/
def enter (c : ScopeCollector) (o : Occurrence) : ScopeCollector where
  collected := (o.statement.entry (!c.scopes.isEmpty)).foldl Collected.add c.collected
  scopes := if o.statement.opensScope then o :: c.scopes else c.scopes

/-- At the end of a statement. The innermost scope is closed even when it is the
wrong one. -/
def exit (c : ScopeCollector) (o : Occurrence) : ScopeCollector × Option CollectError :=
  if !o.statement.opensScope then (c, none)
  else match c.scopes with
    | [] => (c, some (.emptyStack o.statement.label))
    | innermost :: scopes =>
      ({ c with scopes },
        if innermost.path = o.path then none
        else some (.imbalance innermost.statement.label o.statement.label))

/-- At the end of the walk, when no scope may be open. -/
def finish (c : ScopeCollector) : Except CollectError Collected :=
  match c.scopes with
  | [] => .ok c.collected
  | innermost :: _ => .error (.imbalance innermost.statement.label "end of module")

end ScopeCollector

/-- A step of a walk. -/
inductive WalkStep
  | enter (o : Occurrence)
  | exit (o : Occurrence)

/-- A step of a walk; entering a statement never fails. -/
def ScopeCollector.step (c : ScopeCollector) : WalkStep → ScopeCollector × Option CollectError
  | .enter o => (c.enter o, none)
  | .exit o => c.exit o

end Ambient
