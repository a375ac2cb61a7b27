import Ambient.Number.Double

namespace Ambient

/-!
# JSON values

A number is a whole number when it is written as one and fits 64 bits, and a
double otherwise. The entries of an object keep the order of the document.
-/

namespace Json

/-- A number: a whole number of 64 bits, or a double. -/
inductive Numeral
  | whole (n : Int)
  | double (x : Double)
deriving DecidableEq, Repr

end Json

/-- A JSON value. -/
inductive Json
  | null
  | bool (value : Bool)
  | number (value : Json.Numeral)
  | string (value : String)
  | array (items : List Json)
  | object (entries : List (String × Json))

namespace Json

universe u

variable {α : Type u}

/-- The entries with `value` under `key`: in the place of the entry that had
the key, or at the end. -/
def put (key : String) (value : α) : List (String × α) → List (String × α)
  | [] => [(key, value)]
  | (k, v) :: rest => if k = key then (k, value) :: rest else (k, v) :: put key value rest

/-- The entries without repeated keys: the last value of a key stands where the
key came first. -/
def distinct (entries : List (String × α)) : List (String × α) :=
  entries.foldl (fun done entry => put entry.1 entry.2 done) []

/-- The value under a key. -/
def get? (key : String) : List (String × α) → Option α
  | [] => none
  | (k, v) :: rest => if k = key then some v else get? key rest

@[simp] theorem put_nil (key : String) (value : α) : put key value [] = [(key, value)] := rfl

theorem get?_put_same (key : String) (value : α) (entries : List (String × α)) :
    get? key (put key value entries) = some value := by
  induction entries with
  | nil => simp [get?]
  | cons entry rest ih =>
    by_cases h : entry.1 = key <;> simp [put, get?, h, ih]

theorem get?_put_ne {key other : String} (h : other ≠ key) (value : α)
    (entries : List (String × α)) : get? other (put key value entries) = get? other entries := by
  induction entries with
  | nil => simp [get?, Ne.symm h]
  | cons entry rest ih =>
    by_cases hk : entry.1 = key
    · simp [put, get?, hk, Ne.symm h]
    · simp [put, get?, hk, ih]

/-- The text of a JSON string, if the value is one. -/
def text? : Json → Option String
  | .string s => some s
  | _ => none

def isNull : Json → Bool
  | .null => true
  | _ => false

end Json

end Ambient
