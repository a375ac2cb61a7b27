import Ambient.Json.Basic
import Mathlib.Data.List.Induction

namespace Ambient.Json

/-!
# The entries of an object

Of several entries with one key the last one counts, and it stands where the key came
first. So when the value of an entry that counts is replaced, nothing but that value
changes among the entries that count.
-/

universe u

variable {α β : Type u}

/-- The value of the last entry with a key. -/
def last? (key : String) (entries : List (String × α)) : Option α := get? key entries.reverse

theorem mem_of_get? {key : String} {value : α} {entries : List (String × α)}
    (h : get? key entries = some value) : (key, value) ∈ entries := by
  induction entries with
  | nil => cases h
  | cons entry rest ih =>
      rw [get?] at h
      split at h
      next hkey =>
          cases h
          rw [← hkey]
          exact List.mem_cons_self
      next => exact List.mem_cons_of_mem _ (ih h)

theorem get?_of_not_mem {key : String} {entries : List (String × α)}
    (h : key ∉ entries.map Prod.fst) : get? key entries = none := by
  induction entries with
  | nil => rfl
  | cons entry rest ih =>
      simp only [List.map_cons, List.mem_cons, not_or] at h
      rw [get?, if_neg (Ne.symm h.1), ih h.2]

theorem get?_append (key : String) (before after : List (String × α)) :
    get? key (before ++ after) = (get? key before).or (get? key after) := by
  induction before with
  | nil => rfl
  | cons entry before ih =>
      by_cases h : entry.1 = key <;> simp [get?, h, ih]

theorem get?_append_of_ne {key other : String} (h : other ≠ key) (before after : List (String × α))
    (value : α) : get? other (before ++ (key, value) :: after) = get? other (before ++ after) := by
  rw [get?_append, get?_append, get?, if_neg h.symm]

theorem get?_map (key : String) (f : α → β) (entries : List (String × α)) :
    get? key (entries.map fun entry => (entry.1, f entry.2)) = (get? key entries).map f := by
  induction entries with
  | nil => rfl
  | cons entry rest ih =>
      by_cases h : entry.1 = key <;> simp [get?, h, ih]

theorem last?_append_of_ne {key other : String} (h : other ≠ key)
    (before after : List (String × α)) (value : α) :
    last? other (before ++ (key, value) :: after) = last? other (before ++ after) := by
  simp [last?, get?_append_of_ne h]

theorem last?_map (key : String) (f : α → β) (entries : List (String × α)) :
    last? key (entries.map fun entry => (entry.1, f entry.2)) = (last? key entries).map f := by
  rw [last?, ← List.map_reverse, get?_map, last?]

theorem distinct_concat (entries : List (String × α)) (entry : String × α) :
    distinct (entries ++ [entry]) = put entry.1 entry.2 (distinct entries) := by
  simp [distinct]

theorem get?_distinct (key : String) (entries : List (String × α)) :
    get? key (distinct entries) = last? key entries := by
  induction entries using List.reverseRecOn with
  | nil => rfl
  | append_singleton entries entry ih =>
      rw [distinct_concat, last?, List.reverse_concat, get?]
      split
      next h => rw [h, get?_put_same]
      next h => rw [get?_put_ne (Ne.symm h), ih, last?]

theorem exists_put (key : String) (entries : List (String × α)) :
    ∃ front back, key ∉ front.map Prod.fst ∧
      ∀ value, put key value entries = front ++ (key, value) :: back := by
  induction entries with
  | nil => exact ⟨[], [], by simp, fun value => rfl⟩
  | cons entry rest ih =>
      by_cases h : entry.1 = key
      · exact ⟨[], rest, by simp, fun value => by simp [put, h]⟩
      · obtain ⟨front, back, hfront, hput⟩ := ih
        exact ⟨entry :: front, back, by simpa [Ne.symm h] using hfront,
          fun value => by simp [put, h, hput]⟩

/-- Putting something under another key leaves an entry where it is among the others. -/
theorem exists_put_of_ne {key other : String} (h : other ≠ key) (value : α)
    {front : List (String × α)} (back : List (String × α)) (hfront : key ∉ front.map Prod.fst) :
    ∃ front' back', key ∉ front'.map Prod.fst ∧
      ∀ hole, put other value (front ++ (key, hole) :: back) =
        front' ++ (key, hole) :: back' := by
  induction front with
  | nil => exact ⟨[], put other value back, by simp, fun hole => by simp [put, h.symm]⟩
  | cons entry front ih =>
      simp only [List.map_cons, List.mem_cons, not_or] at hfront
      by_cases hentry : entry.1 = other
      · exact ⟨(other, value) :: front, back, by simpa [h.symm] using hfront.2,
          fun hole => by simp [put, hentry]⟩
      · obtain ⟨front', back', hfront', hput⟩ := ih hfront.2
        exact ⟨entry :: front', back', by simpa [hfront.1] using hfront',
          fun hole => by simp [put, hentry, hput]⟩

/-- An entry that no later one has the key of stands at one point of the entries that
count, whatever its value is. -/
theorem exists_distinct_append {key : String} (before : List (String × α))
    {after : List (String × α)} (h : key ∉ after.map Prod.fst) :
    ∃ front back, key ∉ front.map Prod.fst ∧
      ∀ value, distinct (before ++ (key, value) :: after) = front ++ (key, value) :: back := by
  induction after using List.reverseRecOn with
  | nil =>
      obtain ⟨front, back, hfront, hput⟩ := exists_put key (distinct before)
      exact ⟨front, back, hfront, fun value => by rw [distinct_concat, hput]⟩
  | append_singleton after entry ih =>
      simp only [List.map_append, List.mem_append, List.map_singleton, List.mem_singleton,
        not_or] at h
      obtain ⟨front, back, hfront, hdistinct⟩ := ih h.1
      obtain ⟨front', back', hfront', hput⟩ :=
        exists_put_of_ne (Ne.symm h.2) entry.2 back hfront
      refine ⟨front', back', hfront', fun value => ?_⟩
      rw [← List.cons_append, ← List.append_assoc, distinct_concat, hdistinct, hput]

end Ambient.Json
