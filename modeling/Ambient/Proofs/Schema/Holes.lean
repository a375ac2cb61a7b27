import Ambient.Proofs.Json.Entries
import Ambient.Schema.Read

namespace Ambient

/-!
# Results with a hole

When one field of a record is read from another value, nothing but that field changes in
what the record is read as. The record with that field left open is a hole for it.
-/

namespace Mode

variable {α : Type}

/-- The place that a field is read at when it is there. -/
def place : Mode α → Place
  | .required place => place
  | .optional place => place
  | .nullable place _ => place
  | .defaulted place _ => place

/-- The value of a field from what is read at its place. -/
def fill : (mode : Mode α) → mode.place.Result → α
  | .required _ => fun result => result
  | .optional _ => fun result => some result
  | .nullable _ _ => fun result => result
  | .defaulted _ _ => fun result => result

theorem read_of_not_null (mode : Mode α) {part : Part} (h : part.value.isNull = false) :
    mode.read part = (part.read mode.place).map mode.fill := by
  cases mode with
  | required place =>
      change part.read place = (part.read place).map fun result => result
      cases part.read place <;> rfl
  | optional place =>
      rw [read, if_neg (by simp [h])]
      rfl
  | nullable place fallback =>
      rw [read, if_neg (by simp [h])]
      change part.read place = (part.read place).map fun result => result
      cases part.read place <;> rfl
  | defaulted place fallback =>
      change part.read place = (part.read place).map fun result => result
      cases part.read place <;> rfl

end Mode

theorem Fault.both_eq_ok {α β : Type} {x : Except Fault (β → α)} {y : Except Fault β} {result : α}
    (h : Fault.both x y = .ok result) : ∃ f b, x = .ok f ∧ y = .ok b ∧ result = f b := by
  cases x with
  | error e => cases y <;> cases h
  | ok f =>
      cases y with
      | error e => cases h
      | ok b => exact ⟨f, b, rfl, rfl, (Except.ok.inj h).symm⟩

namespace Record

/-- The place that the value under a key is read at. -/
def place? (key : String) : {α : Type} → Record α → Option Place
  | _, .build _ => none
  | _, .field init name mode => if name = key then some mode.place else init.place? key
  | _, .flatten init inner => (init.place? key).or (inner.place? key)

/-- The place that an item is read at, if the record is read from an array. -/
def placeAt? (index : Nat) : {α : Type} → Record α → Option Place
  | _, .build _ => none
  | _, .field init _ mode => if init.size = index then some mode.place else init.placeAt? index
  | _, .flatten init _ => init.placeAt? index

/-- What a record can be read as: it is built from a value for each field. -/
inductive Filled : {α : Type} → Record α → α → Prop
  | build {α : Type} (value : α) : Filled (.build value) value
  | field {α β : Type} {init : Record (β → α)} {key : String} {mode : Mode β} {f : β → α} (b : β)
      (others : Filled init f) : Filled (.field init key mode) (f b)
  | flatten {α β : Type} {init : Record (β → α)} {inner : Record β} {f : β → α} {b : β}
      (others : Filled init f) (within : Filled inner b) : Filled (.flatten init inner) (f b)

/-- A record with a value for each field but one, which is read at a place. -/
inductive Hole : (place : Place) → {α : Type} → Record α → (place.Result → α) → Prop
  | last {α β : Type} {init : Record (β → α)} {key : String} {mode : Mode β} {f : β → α}
      (others : Filled init f) :
      Hole mode.place (.field init key mode) fun result => f (mode.fill result)
  | field {place : Place} {α β : Type} {init : Record (β → α)} {key : String} {mode : Mode β}
      {f : place.Result → β → α} (b : β) (hole : Hole place init f) :
      Hole place (.field init key mode) fun result => f result b
  | flatten {place : Place} {α β : Type} {init : Record (β → α)} {inner : Record β}
      {f : place.Result → β → α} {b : β} (hole : Hole place init f) (within : Filled inner b) :
      Hole place (.flatten init inner) fun result => f result b
  | within {place : Place} {α β : Type} {init : Record (β → α)} {inner : Record β} {f : β → α}
      {g : place.Result → β} (others : Filled init f) (hole : Hole place inner g) :
      Hole place (.flatten init inner) fun result => f (g result)

theorem mem_keys_of_place? {key : String} {place : Place} {α : Type} {fields : Record α}
    (h : fields.place? key = some place) : key ∈ fields.keys := by
  induction fields with
  | build value => cases h
  | field init name mode ih =>
      rw [place?] at h
      rw [keys, List.mem_append, List.mem_singleton]
      split at h
      next hname => exact .inr hname.symm
      next => exact .inl (ih h)
  | flatten init inner ih ihInner =>
      rw [place?, Option.or_eq_some_iff] at h
      rw [keys, List.mem_append]
      rcases h with h | ⟨-, h⟩
      · exact .inl (ih h)
      · exact .inr (ihInner h)

/-! ## Records from the entries of an object -/

theorem map_find? (key : String) (entries : List (String × Part)) :
    (find? key entries).map Prod.snd = Json.get? key entries := by
  induction entries with
  | nil => rfl
  | cons entry rest ih =>
      by_cases h : entry.1 = key
      · simp [find?, Json.get?, h]
      · rw [find?, if_neg h, Json.get?, if_neg h, ← ih]
        cases find? key rest <;> rfl

section Entries

variable {key : String} {front back : List (String × Part)}

theorem find?_append (hfront : key ∉ front.map Prod.fst) (part : Part) :
    find? key (front ++ (key, part) :: back) = some (front.length, part) := by
  induction front with
  | nil => simp [find?]
  | cons entry front ih =>
      simp only [List.map_cons, List.mem_cons, not_or] at hfront
      simp [find?, Ne.symm hfront.1, ih hfront.2]

theorem find?_append_of_ne {other : String} (h : other ≠ key) (part part' : Part) :
    find? other (front ++ (key, part) :: back) = find? other (front ++ (key, part') :: back) := by
  induction front with
  | nil => simp [find?, h.symm]
  | cons entry front ih => simp [find?, ih]

theorem readField_append (hfront : key ∉ front.map Prod.fst) {β : Type} (mode : Mode β)
    (base : Nat) (part : Part) :
    readField key mode base (front ++ (key, part) :: back) =
      (mode.read part).mapError fun e => ⟨base + front.length, e⟩ := by
  rw [readField, find?_append hfront]

theorem readField_append_of_ne {other : String} (h : other ≠ key) {β : Type} (mode : Mode β)
    (base : Nat) (part part' : Part) :
    readField other mode base (front ++ (key, part) :: back) =
      readField other mode base (front ++ (key, part') :: back) := by
  rw [readField, readField, find?_append_of_ne h part part']
  simp

theorem readEntries_append_of_not_mem {α : Type} {fields : Record α} (h : key ∉ fields.keys)
    (base : Nat) (part part' : Part) :
    readEntries (front ++ (key, part) :: back) base fields =
      readEntries (front ++ (key, part') :: back) base fields := by
  induction fields generalizing base with
  | build value => rfl
  | field init name mode ih =>
      simp only [keys, List.mem_append, List.mem_singleton, not_or] at h
      rw [readEntries, readEntries, ih h.1,
        readField_append_of_ne (Ne.symm h.2) mode base part part']
  | flatten init inner ih ihInner =>
      simp only [keys, List.mem_append, not_or] at h
      rw [readEntries, readEntries, ih h.1, ihInner h.2]
      simp

theorem filled_of_readEntries {entries : List (String × Part)} {α : Type} {fields : Record α}
    {base : Nat} {result : α} (h : readEntries entries base fields = .ok result) :
    fields.Filled result := by
  induction fields generalizing base with
  | build value =>
      cases h
      exact .build value
  | field init name mode ih =>
      obtain ⟨f, b, hinit, -, rfl⟩ := Fault.both_eq_ok h
      exact .field b (ih hinit)
  | flatten init inner ih ihInner =>
      obtain ⟨f, b, hinit, hinner, rfl⟩ := Fault.both_eq_ok h
      exact .flatten (ih hinit) (ihInner hinner)

/-- Where the value of an entry is read, the record has a hole for it. -/
theorem exists_hole_of_readEntries {place : Place} (hfront : key ∉ front.map Prod.fst) {α : Type}
    {fields : Record α} (hkeys : fields.keys.Nodup) (hplace : fields.place? key = some place)
    {part : Part} (hpart : part.value.isNull = false) {base : Nat} {result : α}
    (h : readEntries (front ++ (key, part) :: back) base fields = .ok result) :
    ∃ f x position, Hole place fields f ∧ part.read place = .ok x ∧ result = f x ∧
      ∀ other : Part, other.value.isNull = false →
        readEntries (front ++ (key, other) :: back) base fields =
          ((other.read place).map f).mapError fun e => ⟨position, e⟩ := by
  -- Induction on the fields; the one with the key is the only one that looks at the part.
  induction fields generalizing base with
  | build value => cases hplace
  | field init name mode ih =>
      obtain ⟨g, b, hinit, hfield, rfl⟩ := Fault.both_eq_ok h
      simp only [keys, List.nodup_append, List.mem_singleton, forall_eq] at hkeys
      obtain ⟨hinitKeys, -, hname⟩ := hkeys
      rw [place?] at hplace
      by_cases hsame : name = key
      · subst hsame
        obtain rfl : mode.place = place := by simpa using hplace
        have hnone : name ∉ init.keys := fun hmem => hname name hmem rfl
        rw [readField_append hfront, mode.read_of_not_null hpart] at hfield
        cases hread : part.read mode.place with
        | error e =>
            rw [hread] at hfield
            cases hfield
        | ok x =>
            rw [hread] at hfield
            cases hfield
            refine ⟨_, x, base + front.length, .last (filled_of_readEntries hinit), rfl, rfl,
              fun other hother => ?_⟩
            rw [readEntries, readEntries_append_of_not_mem hnone base other part, hinit,
              readField_append hfront, mode.read_of_not_null hother]
            cases other.read mode.place <;> rfl
      · rw [if_neg hsame] at hplace
        obtain ⟨f, x, position, hole, hread, rfl, hothers⟩ := ih hinitKeys hplace hinit
        refine ⟨_, x, position, .field b hole, hread, rfl, fun other hother => ?_⟩
        rw [readEntries, hothers other hother, readField_append_of_ne hsame mode base other part,
          hfield]
        cases other.read place <;> rfl
  | flatten init inner ih ihInner =>
      obtain ⟨g, b, hinit, hinner, rfl⟩ := Fault.both_eq_ok h
      simp only [keys, List.nodup_append] at hkeys
      obtain ⟨hinitKeys, hinnerKeys, hapart⟩ := hkeys
      rw [place?, Option.or_eq_some_iff] at hplace
      have hlength (other : Part) : (front ++ (key, other) :: back).length =
          (front ++ (key, part) :: back).length := by simp
      rcases hplace with hplace | ⟨-, hplace⟩
      · have hnone : key ∉ inner.keys :=
          fun hmem => hapart key (mem_keys_of_place? hplace) key hmem rfl
        obtain ⟨f, x, position, hole, hread, rfl, hothers⟩ := ih hinitKeys hplace hinit
        refine ⟨_, x, position, .flatten hole (filled_of_readEntries hinner), hread, rfl,
          fun other hother => ?_⟩
        rw [readEntries, hothers other hother, hlength other,
          readEntries_append_of_not_mem hnone _ other part, hinner]
        cases other.read place <;> rfl
      · have hnone : key ∉ init.keys :=
          fun hmem => hapart key hmem key (mem_keys_of_place? hplace) rfl
        obtain ⟨f, x, position, hole, hread, rfl, hothers⟩ := ihInner hinnerKeys hplace hinner
        refine ⟨_, x, position, .within (filled_of_readEntries hinit) hole, hread, rfl,
          fun other hother => ?_⟩
        rw [readEntries, readEntries_append_of_not_mem hnone base other part, hinit,
          hlength other, hothers other hother]
        cases other.read place <;> rfl

end Entries

/-! ## Records from the items of an array -/

section Items

variable {name : String} {count : Nat} {before after : List Part}

theorem getElem?_append_of_ne {i : Nat} (h : i ≠ before.length) (part part' : Part) :
    (before ++ part :: after)[i]? = (before ++ part' :: after)[i]? := by
  rcases Nat.lt_or_gt_of_ne h with hlt | hgt
  · rw [List.getElem?_append_left hlt, List.getElem?_append_left hlt]
  · obtain ⟨k, rfl⟩ := Nat.exists_eq_add_of_lt hgt
    simp [List.getElem?_append_right, Nat.add_assoc]

theorem readItems_append_of_size_le {α : Type} {fields : Record α}
    (h : fields.size ≤ before.length) (part part' : Part) :
    readItems name count (before ++ part :: after) fields =
      readItems name count (before ++ part' :: after) fields := by
  induction fields with
  | build value => rfl
  | field init key mode ih =>
      rw [size] at h
      simp only [readItems]
      rw [ih (by omega), getElem?_append_of_ne (by omega) part part']
  | flatten init inner ih ihInner =>
      rw [readItems, readItems, ih h]

theorem filled_of_readItems {items : List Part} {α : Type} {fields : Record α} {result : α}
    (h : readItems name count items fields = .ok result) : fields.Filled result := by
  induction fields with
  | build value =>
      cases h
      exact .build value
  | field init key mode ih =>
      obtain ⟨f, b, hinit, -, rfl⟩ := Fault.both_eq_ok h
      exact .field b (ih hinit)
  | flatten init inner ih ihInner =>
      obtain ⟨f, b, -, hinner, -⟩ := Fault.both_eq_ok h
      cases hinner

/-- Where an item is read, the record has a hole for it. -/
theorem exists_hole_of_readItems {place : Place} {α : Type} {fields : Record α}
    (hplace : fields.placeAt? before.length = some place) {part : Part}
    (hpart : part.value.isNull = false) {result : α}
    (h : readItems name count (before ++ part :: after) fields = .ok result) :
    ∃ f x position, Hole place fields f ∧ part.read place = .ok x ∧ result = f x ∧
      ∀ other : Part, other.value.isNull = false →
        readItems name count (before ++ other :: after) fields =
          ((other.read place).map f).mapError fun e => ⟨position, e⟩ := by
  -- An item is the one of a field if as many fields come before it, and no field before
  -- that one looks so far.
  induction fields with
  | build value => cases hplace
  | field init key mode ih =>
      obtain ⟨g, b, hinit, hfield, rfl⟩ := Fault.both_eq_ok h
      rw [placeAt?] at hplace
      by_cases hsame : init.size = before.length
      · obtain rfl : mode.place = place := by simpa [hsame] using hplace
        have hitem (other : Part) : (before ++ other :: after)[init.size]? = some other := by
          simp [hsame]
        rw [hitem] at hfield
        simp only [mode.read_of_not_null hpart] at hfield
        cases hread : part.read mode.place with
        | error e =>
            rw [hread] at hfield
            cases hfield
        | ok x =>
            rw [hread] at hfield
            cases hfield
            refine ⟨_, x, init.size, .last (filled_of_readItems hinit), rfl, rfl,
              fun other hother => ?_⟩
            simp only [readItems]
            rw [readItems_append_of_size_le (by omega) other part, hinit, hitem]
            simp only [mode.read_of_not_null hother]
            cases other.read mode.place <;> rfl
      · rw [if_neg hsame] at hplace
        obtain ⟨f, x, position, hole, hread, rfl, hothers⟩ := ih hplace hinit
        refine ⟨_, x, position, .field b hole, hread, rfl, fun other hother => ?_⟩
        simp only [readItems]
        rw [hothers other hother, getElem?_append_of_ne hsame other part, hfield]
        cases other.read place <;> rfl
  | flatten init inner ih ihInner =>
      obtain ⟨f, b, -, hinner, -⟩ := Fault.both_eq_ok h
      cases hinner

end Items

end Record

end Ambient
