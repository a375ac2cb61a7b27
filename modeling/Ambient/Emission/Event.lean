import Ambient.TypeText

namespace Ambient

/-!
# Events

Whatever is left out of a document is noted as an event. Events are part of the
result, so a document comes with the account of how it was made, also when it
could not be finished.
-/

/-- How much an event matters. -/
inductive Severity
  | trace
  | debug
  | warn
deriving DecidableEq, Repr

/-- What happened while a document was made. -/
inductive Event
  | collected (kind : String)
  | generating (module : String)
  | excluded (name : String)
  | emptyExport
  | emptyVariables (keyword : String)
  | emptyClass (name : String)
  | emptyInterface (name : String)
  | setterOmitted (name : String)
  | statementOmitted (kind : String)
  | importSpecifierOmitted (kind : String)
  | exportSpecifierOmitted (kind : String)
  | destructuredDeclaratorOmitted
  | anonymousFunctionOmitted
  | anonymousClassOmitted
  | functionOmitted (name : String)
  | methodOmitted
  | defaultedParamUnsupported
  | restParamUnsupported
  | paramUnsupported (kind : String)
  | destructuredRestUnsupported
  | destructuredKeyUnsupported
  | nestedPatternUnsupported (key : String)
  | superclassUnsupported (name kind : String)
  | classMemberOmitted (kind : String)
  | memberNameUnsupported
  | interfaceMemberOmitted (kind : String)
deriving DecidableEq, Repr

namespace Event

def severity : Event → Severity
  | .collected _ => .trace
  | .generating _ | .excluded _ | .emptyExport | .emptyVariables _ | .emptyClass _
  | .emptyInterface _ | .setterOmitted _ => .debug
  | _ => .warn

def message : Event → String
  | .collected _ => "collected statement"
  | .generating _ => "generating declarations"
  | .excluded _ => "member excluded by filter"
  | .emptyExport => "export without remaining specifiers omitted"
  | .emptyVariables _ => "variable statement without declarators omitted"
  | .emptyClass _ => "empty class omitted"
  | .emptyInterface _ => "empty interface omitted"
  | .setterOmitted _ => "setter omitted"
  | .statementOmitted _ => "declaration kind not supported, omitted"
  | .importSpecifierOmitted _ => "import specifier not supported, omitted"
  | .exportSpecifierOmitted _ => "export specifier not supported, omitted"
  | .destructuredDeclaratorOmitted => "destructuring variable declarator not supported, omitted"
  | .anonymousFunctionOmitted => "anonymous function declaration omitted"
  | .anonymousClassOmitted => "anonymous class declaration omitted"
  | .functionOmitted _ => "failed mapping parameters, function omitted"
  | .methodOmitted => "failed mapping parameters, method omitted"
  | .defaultedParamUnsupported => "default-valued parameter pattern not supported"
  | .restParamUnsupported => "rest parameter pattern not supported"
  | .paramUnsupported _ => "parameter pattern not supported"
  | .destructuredRestUnsupported =>
    "rest or unknown member in destructured parameter not supported"
  | .destructuredKeyUnsupported => "computed or unknown key in destructured parameter not supported"
  | .nestedPatternUnsupported _ => "nested parameter pattern not supported"
  | .superclassUnsupported _ _ => "only identifiers are supported as superclasses, class omitted"
  | .classMemberOmitted _ => "class member not supported, omitted"
  | .memberNameUnsupported => "member name kind not supported, omitted"
  | .interfaceMemberOmitted _ => "interface member not supported, omitted"

/-- The particulars of an event by name. -/
def fields : Event → List (String × String)
  | .collected kind => [("kind", kind)]
  | .generating module => [("module", module)]
  | .excluded name => [("name", name)]
  | .emptyVariables keyword => [("kind", keyword)]
  | .emptyClass name => [("class", name)]
  | .emptyInterface name => [("interface", name)]
  | .setterOmitted name => [("name", name)]
  | .statementOmitted kind => [("kind", kind)]
  | .importSpecifierOmitted kind => [("kind", kind)]
  | .exportSpecifierOmitted kind => [("kind", kind)]
  | .functionOmitted name => [("name", name)]
  | .paramUnsupported kind => [("kind", kind)]
  | .nestedPatternUnsupported key => [("key", key)]
  | .superclassUnsupported name kind => [("class", name), ("kind", kind)]
  | .classMemberOmitted kind => [("kind", kind)]
  | .interfaceMemberOmitted kind => [("kind", kind)]
  | _ => []

end Event

/-- A result with the events on the way to it. -/
structure Traced (α : Type) where
  events : List Event
  result : Written α

namespace Traced

variable {α β : Type}

/-- What comes after a failure does not happen. -/
def andThen (x : Traced α) (f : α → Traced β) : Traced β :=
  match x.result with
  | .ok a => ⟨x.events ++ (f a).events, (f a).result⟩
  | .error e => ⟨x.events, .error e⟩

instance : Monad Traced where
  pure a := ⟨[], .ok a⟩
  bind := andThen

instance : MonadLift Written Traced where
  monadLift x := ⟨[], x⟩

/-- Notes an event. -/
def note (event : Event) : Traced Unit := ⟨[event], .ok ()⟩

/-- Leaves something out and notes why. -/
def leaveOut (event : Event) : Traced (Option α) := ⟨[event], .ok none⟩

@[simp] theorem pure_result (a : α) : (pure a : Traced α).result = .ok a := rfl

theorem bind_of_ok {x : Traced α} {a : α} (h : x.result = .ok a) (f : α → Traced β) :
    (x >>= f) = ⟨x.events ++ (f a).events, (f a).result⟩ := by
  simp [bind, andThen, h]

theorem bind_of_error {x : Traced α} {e : UnsupportedType} (h : x.result = .error e)
    (f : α → Traced β) : (x >>= f) = ⟨x.events, .error e⟩ := by
  simp [bind, andThen, h]

instance : LawfulMonad Traced :=
  LawfulMonad.mk' Traced
    (fun x => by
      obtain ⟨events, result⟩ := x
      cases result <;> simp [Functor.map, andThen])
    (fun _ _ => rfl)
    (fun x f g => by
      obtain ⟨events, result⟩ := x
      cases result with
      | error e => rfl
      | ok a =>
        cases h : (f a).result with
        | error e => simp [bind, andThen, h]
        | ok b => simp [bind, andThen, h])

/-- The parts of a list that are not left out. -/
def keep (f : α → Traced (Option β)) : List α → Traced (List β)
  | [] => pure []
  | a :: rest => do
    let b ← f a
    let kept ← keep f rest
    return b.toList ++ kept

/-- All parts of a list, or nothing if any of them is left out. -/
def all (f : α → Traced (Option β)) : List α → Traced (Option (List β))
  | [] => pure (some [])
  | a :: rest => do
    match ← f a with
    | none => return none
    | some b => return (← all f rest).map (b :: ·)

end Traced

end Ambient
