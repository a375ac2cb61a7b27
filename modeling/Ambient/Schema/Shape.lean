import Ambient.Schema.Place

namespace Ambient

/-!
# Shapes of values

A shape says which values fit a place and how their parts are read. A tagged
shape is a choice between records by the text under the key `type`.
-/

/-- The form a value has to have to be read as an `α`. -/
inductive Shape : Type → Type 1
  | text : Shape String
  | flag : Shape Bool
  | offset : Shape Nat
  | double : Shape Double
  | list (item : Place) : Shape (List item.Result)
  /-- A record, and whether it was kept aside before it is read. -/
  | record {α : Type} (name : String) (kept : Bool) (fields : Record α) : Shape α
  /-- A record chosen by its tag; `other` takes the tags that have no case. -/
  | tagged {α : Type} (cases : List (String × Record α)) (other : String → Record α) : Shape α
  /-- A name, and what any other name is read as, if anything. -/
  | variant {α : Type} (names : List (String × α)) (other : Option α) (kept : Bool) : Shape α

namespace Shape

variable {α : Type}

/-- Reads every item; the first that is wrong is reported. -/
def readList (place : Place) : List Part → Except ReadError (List place.Result)
  | [] => .ok []
  | part :: rest => do
    let value ← part.read place
    let values ← readList place rest
    return value :: values

/-- A record from the items of an array. -/
def readArray (name : String) (kept : Bool) (fields : Record α) (items : List Part) :
    Except ReadError α := do
  let count := fields.size
  let value ← (Record.readItems name count items fields).mapError (·.error)
  if count < items.length then
    throw (.invalidLength items.length (if kept then .elements count else .fewerElements))
  return value

/-- What a name stands for. -/
def readName (names : List (String × α)) (other : Option α) (name : String) :
    Except ReadError α :=
  match Json.get? name names, other with
  | some value, _ => .ok value
  | none, some value => .ok value
  | none, none => .error (.unknownVariant name (names.map Prod.fst))

/-- Whether a value may stand beside a name that has no content. -/
def isUnit (kept : Bool) : Json → Bool
  | .null => true
  | .object [] => kept
  | _ => false

/-- The tag of a node: the text under its key `type`. -/
def tag? (entries : List (String × Part)) : Option String :=
  (Json.get? "type" entries).bind fun part => part.value.text?

/-- The least whole number that does not fit 32 bits. -/
def offsetLimit : Nat := Nat.pow 2 32

/-- Reads the outermost layer of a value. -/
def read : {α : Type} → Shape α → Layer → Except ReadError α
  | _, .text, .scalar (.string value) => .ok value
  | _, .text, layer => .error (.invalidType layer.found .string)
  | _, .flag, .scalar (.bool value) => .ok value
  | _, .flag, layer => .error (.invalidType layer.found .boolean)
  | _, .offset, .scalar (.number (.whole n)) =>
    if 0 ≤ n ∧ n.toNat < offsetLimit then .ok n.toNat
    else .error (.invalidValue (.number (.whole n)) .offset)
  | _, .offset, layer => .error (.invalidType layer.found .offset)
  | _, .double, .scalar (.number (.whole n)) => .ok (Double.ofInt n)
  | _, .double, .scalar (.number (.double x)) => .ok x
  | _, .double, layer => .error (.invalidType layer.found .double)
  | _, .list item, .array items => readList item items
  | _, .list _, layer => .error (.invalidType layer.found .sequence)
  | _, .record _ _ fields, .object entries =>
    (Record.readEntries entries 0 fields).mapError (·.error)
  | _, .record name kept fields, .array items =>
    if fields.isPlain then readArray name kept fields items
    else .error (.invalidType (.array []) (.record name))
  | _, .record name _ _, .scalar value => .error (.invalidType value (.record name))
  | _, .tagged cases other, .object entries =>
    match tag? entries with
    | none => .error .missingTag
    | some kind =>
      (Record.readEntries entries 0 ((Json.get? kind cases).getD (other kind))).mapError (·.error)
  | _, .tagged _ _, _ => .error .missingTag
  | _, .variant names other _, .scalar (.string name) => readName names other name
  | _, .variant names other kept, .object entries =>
    match entries with
    | [(name, part)] => do
      let value ← readName names other name
      if isUnit kept part.value then return value
      else throw (.invalidType part.value .unit)
    | _ => .error (.invalidValue (.object []) .singleKey)
  | _, .variant _ _ _, layer => .error (.invalidType layer.found .stringOrMap)

end Shape

end Ambient
