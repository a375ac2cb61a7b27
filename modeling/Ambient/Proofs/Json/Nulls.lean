import Ambient.Proofs.Json.Entries
import Mathlib.Data.List.Nodup

namespace Ambient.Json

/-!
# Values without nulls

Taking the null entries out of an object leaves under each key what was there, without its
own null entries, and nothing where null was. With repeated keys this fails, as an entry
that has not counted may count then.
-/

theorem sizeOf_lt_array {item : Json} {items : List Json} (h : item ∈ items) :
    sizeOf item < sizeOf (Json.array items) := by
  have hitem := List.sizeOf_lt_of_mem h
  rw [array.sizeOf_spec]
  omega

theorem sizeOf_lt_object {entry : String × Json} {entries : List (String × Json)}
    (h : entry ∈ entries) : sizeOf entry.2 < sizeOf (Json.object entries) := by
  have hentry := List.sizeOf_lt_of_mem h
  have hvalue : sizeOf entry = 1 + sizeOf entry.1 + sizeOf entry.2 := rfl
  rw [object.sizeOf_spec]
  omega

/-- Induction over a value through the items and entries in it. -/
@[elab_as_elim]
theorem induction {motive : Json → Prop} (null : motive .null)
    (bool : ∀ value, motive (.bool value)) (number : ∀ value, motive (.number value))
    (string : ∀ value, motive (.string value))
    (array : ∀ items, (∀ item ∈ items, motive item) → motive (.array items))
    (object : ∀ entries, (∀ entry ∈ entries, motive entry.2) → motive (.object entries)) :
    ∀ value, motive value
  | .null => null
  | .bool value => bool value
  | .number value => number value
  | .string value => string value
  | .array items => array items fun item _ =>
      induction null bool number string array object item
  | .object entries => object entries fun entry _ =>
      induction null bool number string array object entry.2
termination_by value => sizeOf value
decreasing_by
  · exact sizeOf_lt_array ‹_›
  · exact sizeOf_lt_object ‹_›

mutual

/-- Whether no object in a value has two entries with one key. -/
def hasDistinctKeys : Json → Bool
  | .array items => allHaveDistinctKeys items
  | .object entries => entriesHaveDistinctKeys entries
  | .null | .bool _ | .number _ | .string _ => true

def allHaveDistinctKeys : List Json → Bool
  | [] => true
  | value :: rest => value.hasDistinctKeys && allHaveDistinctKeys rest

def entriesHaveDistinctKeys : List (String × Json) → Bool
  | [] => true
  | (key, value) :: rest =>
    (get? key rest).isNone && value.hasDistinctKeys && entriesHaveDistinctKeys rest

end

mutual

/-- A value without the null entries of the objects in it. -/
def withoutNulls : Json → Json
  | .array items => .array (allWithoutNulls items)
  | .object entries => .object (entriesWithoutNulls entries)
  | .null => .null
  | .bool value => .bool value
  | .number value => .number value
  | .string value => .string value

def allWithoutNulls : List Json → List Json
  | [] => []
  | value :: rest => value.withoutNulls :: allWithoutNulls rest

def entriesWithoutNulls : List (String × Json) → List (String × Json)
  | [] => []
  | (key, value) :: rest =>
    if value.isNull then entriesWithoutNulls rest
    else (key, value.withoutNulls) :: entriesWithoutNulls rest

end

theorem distinctKeys_of_array {items : List Json}
    (h : (Json.array items).hasDistinctKeys = true) :
    ∀ item ∈ items, item.hasDistinctKeys = true := by
  rw [hasDistinctKeys] at h
  induction items with
  | nil => simp
  | cons item items ih =>
      rw [allHaveDistinctKeys, Bool.and_eq_true] at h
      simpa using ⟨h.1, ih h.2⟩

theorem not_mem_of_get? {key : String} {entries : List (String × Json)}
    (h : get? key entries = none) : key ∉ entries.map Prod.fst := by
  induction entries with
  | nil => simp
  | cons entry entries ih =>
      rw [get?] at h
      split at h
      next => cases h
      next hkey => simpa [Ne.symm hkey] using ih h

theorem distinctKeys_of_object {entries : List (String × Json)}
    (h : (Json.object entries).hasDistinctKeys = true) :
    (entries.map Prod.fst).Nodup ∧ ∀ entry ∈ entries, entry.2.hasDistinctKeys = true := by
  rw [hasDistinctKeys] at h
  induction entries with
  | nil => simp
  | cons entry entries ih =>
      simp only [entriesHaveDistinctKeys, Bool.and_eq_true, Option.isNone_iff_eq_none] at h
      obtain ⟨⟨hkey, hvalue⟩, hentries⟩ := h
      obtain ⟨hkeys, hvalues⟩ := ih hentries
      refine ⟨?_, by simpa using ⟨hvalue, fun key value hmem => hvalues (key, value) hmem⟩⟩
      rw [List.map_cons, List.nodup_cons]
      exact ⟨not_mem_of_get? hkey, hkeys⟩

theorem allWithoutNulls_eq_map (items : List Json) :
    allWithoutNulls items = items.map withoutNulls := by
  induction items with
  | nil => rfl
  | cons item items ih => rw [allWithoutNulls, ih, List.map_cons]

theorem entriesWithoutNulls_eq_map (entries : List (String × Json)) :
    entriesWithoutNulls entries = (entries.filter fun entry => !entry.2.isNull).map
      fun entry => (entry.1, entry.2.withoutNulls) := by
  induction entries with
  | nil => rfl
  | cons entry entries ih =>
      rw [entriesWithoutNulls, ih, List.filter_cons]
      cases entry.2.isNull <;> rfl

theorem eq_null_of_isNull {value : Json} (h : value.isNull = true) : value = .null := by
  cases value with
  | null => rfl
  | _ => cases h

@[simp] theorem isNull_withoutNulls (value : Json) : value.withoutNulls.isNull = value.isNull := by
  cases value <;> rfl

/-- What is left of a value that stands under a key. -/
def left? : Option Json → Option Json
  | none => none
  | some value => if value.isNull then none else some value.withoutNulls

theorem get?_entriesWithoutNulls (key : String) {entries : List (String × Json)}
    (h : (entries.map Prod.fst).Nodup) :
    get? key (entriesWithoutNulls entries) = left? (get? key entries) := by
  induction entries with
  | nil => rfl
  | cons entry entries ih =>
      rw [List.map_cons, List.nodup_cons] at h
      rw [entriesWithoutNulls]
      by_cases hkey : entry.1 = key
      · have hrest : get? key entries = none := get?_of_not_mem (hkey ▸ h.1)
        cases hnull : entry.2.isNull with
        | true => simp [get?, hkey, ih h.2, hrest, left?, hnull]
        | false => simp [get?, hkey, left?, hnull]
      · cases hnull : entry.2.isNull with
        | true => simp [get?, hkey, ih h.2]
        | false => simp [get?, hkey, ih h.2]

theorem last?_entriesWithoutNulls (key : String) {entries : List (String × Json)}
    (h : (entries.map Prod.fst).Nodup) :
    last? key (entriesWithoutNulls entries) = left? (last? key entries) := by
  have hreverse : (entries.reverse.map Prod.fst).Nodup := by
    rw [List.map_reverse]
    exact List.nodup_reverse.mpr h
  rw [last?, entriesWithoutNulls_eq_map, ← List.map_reverse, ← List.filter_reverse,
    ← entriesWithoutNulls_eq_map, get?_entriesWithoutNulls key hreverse, last?]

theorem nodup_entriesWithoutNulls {entries : List (String × Json)}
    (h : (entries.map Prod.fst).Nodup) : ((entriesWithoutNulls entries).map Prod.fst).Nodup := by
  have hkeys : (entriesWithoutNulls entries).map Prod.fst =
      (entries.filter fun entry => !entry.2.isNull).map Prod.fst := by
    rw [entriesWithoutNulls_eq_map, List.map_map]
    rfl
  rw [hkeys]
  exact h.sublist (List.filter_sublist.map Prod.fst)

end Ambient.Json
