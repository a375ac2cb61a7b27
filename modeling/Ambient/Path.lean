namespace Ambient

/-!
# Paths

A path is a text, and its components are what it means: repeated slashes, a slash
at the end and a `.` behind the start do not count. Paths are equal, ordered and
cut by their components, but they are shown as they were written.
-/

/-- A component of a path. -/
inductive Component
  | root
  /-- The `.` that a path may start with. -/
  | here
  | up
  | name (text : String)
deriving DecidableEq, Repr

namespace Component

def text : Component → String
  | .root => "/"
  | .here => "."
  | .up => ".."
  | .name text => text

/-- The component that a piece between slashes stands for. An empty piece and `.`
stand for none. -/
def ofPiece? (piece : String) : Option Component :=
  if piece = "" then none
  else if piece = "." then none
  else if piece = ".." then some .up
  else some (.name piece)

/-- The kinds of components in order. -/
def rank : Component → Nat
  | .root => 0
  | .here => 1
  | .up => 2
  | .name _ => 3

/-- Whether a component comes before another one; names are in the order of
their characters. -/
def before (a b : Component) : Bool :=
  a.rank < b.rank || (a.rank == b.rank && decide (a.text < b.text))

end Component

/-- A component with the text between it and the component before it. -/
structure Step where
  gap : String
  component : Component
deriving DecidableEq, Repr

def Step.text (step : Step) : String := step.gap ++ step.component.text

structure Path where
  text : String
deriving DecidableEq, Repr

namespace Path

/-- The pieces between the slashes of a path. -/
def pieces (path : Path) : List String :=
  (path.text.toList.splitOn '/').map String.ofList

/-- The steps of pieces that stand behind a gap. -/
def stepsAfter (gap : String) : List String → List Step
  | [] => []
  | piece :: rest =>
    match Component.ofPiece? piece with
    | none => stepsAfter (gap ++ piece ++ "/") rest
    | some component => ⟨gap, component⟩ :: stepsAfter "/" rest

def steps (path : Path) : List Step :=
  match path.pieces with
  | "" :: piece :: rest => ⟨"", .root⟩ :: stepsAfter "" (piece :: rest)
  | "." :: rest => ⟨"", .here⟩ :: stepsAfter "/" rest
  | pieces => stepsAfter "" pieces

def components (path : Path) : List Component := path.steps.map Step.component

/-- The path of steps. What stood before the first one is not a part of it. -/
def ofSteps : List Step → Path
  | [] => ⟨""⟩
  | first :: rest => ⟨first.component.text ++ String.join (rest.map Step.text)⟩

/-- The steps of a path without its last one. -/
def parentSteps (path : Path) : List Step := path.steps.dropLast

/-- What is left of steps that begin with given components. -/
def stepsBelow? : List Component → List Step → Option (List Step)
  | [], steps => some steps
  | _ :: _, [] => none
  | component :: rest, step :: steps =>
    if step.component = component then stepsBelow? rest steps else none

/-- The steps from `root` to `path`, if `path` lies below `root`. -/
def below? (root path : Path) : Option (List Step) := stepsBelow? root.components path.steps

/-- A path behind another one. A path from the root stands for itself. -/
def join (base : Path) (text : String) : Path :=
  if text.toList.head? = some '/' then ⟨text⟩
  else if base.text.toList.getLast?.all (· == '/') then ⟨base.text ++ text⟩
  else ⟨base.text ++ "/" ++ text⟩

/-- Whether two paths have the same components. -/
def same (a b : Path) : Bool := a.components == b.components

/-- The order of lists of components: a list comes before those that go on from
it. -/
def componentsLe : List Component → List Component → Bool
  | [], _ => true
  | _ :: _, [] => false
  | a :: as, b :: bs => if a = b then componentsLe as bs else a.before b

def le (a b : Path) : Bool := componentsLe a.components b.components

/-- What stands behind the last dot of a name. A dot at its start does not
count. -/
def nameExtension? (name : String) : Option String :=
  let reversed := name.toList.reverse
  match reversed.dropWhile (· != '.') with
  | [] => none
  | [_] => none
  | _ => some (String.ofList (reversed.takeWhile (· != '.')).reverse)

/-- The extension of the last component of a path. -/
def extension? (path : Path) : Option String :=
  match path.components.getLast? with
  | some (.name name) => nameExtension? name
  | _ => none

@[simp] theorem stepsBelow?_nil (steps : List Step) : stepsBelow? [] steps = some steps := by
  cases steps <;> rfl

theorem map_component_of_stepsBelow? {components : List Component} {steps rest : List Step}
    (h : stepsBelow? components steps = some rest) :
    steps.map Step.component = components ++ rest.map Step.component := by
  induction components generalizing steps with
  | nil =>
    rw [stepsBelow?_nil] at h
    cases h
    rfl
  | cons component components ih =>
    cases steps with
    | nil => simp [stepsBelow?] at h
    | cons step steps =>
      by_cases hc : step.component = component
      · simp [stepsBelow?, hc] at h
        simp [hc, ih h]
      · simp [stepsBelow?, hc] at h

end Path

end Ambient
