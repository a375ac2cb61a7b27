import Ambient.Schema.Nodes

namespace Ambient.Json

/-!
# Reading nodes

A value is read layer by layer, from the outside in. Every part of a value can
be read at any place, so reading follows the value and not the place.
-/

mutual

/-- The outermost layer of a value. -/
def layer : Json → Layer
  | .array items => .array (parts items)
  | .object entries => .object (distinct (entryParts entries))
  | .null => .scalar .null
  | .bool value => .scalar (.bool value)
  | .number value => .scalar (.number value)
  | .string value => .scalar (.string value)

def parts : List Json → List Part
  | [] => []
  | value :: rest => ⟨value, fun place => place.shape.read value.layer⟩ :: parts rest

def entryParts : List (String × Json) → List (String × Part)
  | [] => []
  | (key, value) :: rest =>
    (key, ⟨value, fun place => place.shape.read value.layer⟩) :: entryParts rest

end

/-- Reads a value at a place. -/
def readAt (value : Json) (place : Place) : Except ReadError place.Result :=
  place.shape.read value.layer

/-- A value as a part of another one. -/
def asPart (value : Json) : Part := ⟨value, value.readAt⟩

theorem parts_eq_map (items : List Json) : parts items = items.map asPart := by
  induction items with
  | nil => rfl
  | cons value rest ih => rw [parts, ih]; rfl

theorem entryParts_eq_map (entries : List (String × Json)) :
    entryParts entries = entries.map fun entry => (entry.1, entry.2.asPart) := by
  induction entries with
  | nil => rfl
  | cons entry rest ih => rw [entryParts, ih]; rfl

/-- What an optional value is read as: nothing when it is null. -/
def readOptional (value : Json) (place : Place) : Except ReadError (Option place.Result) :=
  (Mode.optional place).read value.asPart

end Ambient.Json
