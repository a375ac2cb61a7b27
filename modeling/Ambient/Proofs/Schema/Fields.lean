import Ambient.Proofs.Schema.Holes

namespace Ambient

/-!
# Records by their fields

Which error is reported when a record cannot be read depends on the order of the entries.
Whether it can be read, and as what, depends only on what stands under each key, or at each
place of an array, and on nothing that no field looks at.
-/

/-- What the first result is, the second is too; with `both` also the other way round. -/
structure Agree {α : Type} (both : Bool) (x y : Option α) : Prop where
  forward : ∀ a, x = some a → y = some a
  backward : both = true → ∀ a, y = some a → x = some a

namespace Agree

variable {α β : Type} {both : Bool}

theorem of_eq {x y : Option α} (h : x = y) : Agree both x y :=
  ⟨fun _ ha => h ▸ ha, fun _ _ ha => h ▸ ha⟩

theorem eq {x y : Option α} (h : Agree true x y) : x = y :=
  Option.ext fun a => ⟨h.forward a, h.backward rfl a⟩

/-- Nothing is read on the left, so it has to be the same on the right only with `both`. -/
theorem of_none {x y : Option α} (hx : x = none) (hy : both = true → y = none) :
    Agree both x y := by
  constructor
  · intro a ha
    rw [hx] at ha
    cases ha
  · intro hboth a ha
    rw [hy hboth] at ha
    cases ha

theorem map {x y : Option α} (h : Agree both x y) (f : α → β) : Agree both (x.map f) (y.map f) := by
  constructor
  · intro b hb
    obtain ⟨a, ha, rfl⟩ := Option.map_eq_some_iff.mp hb
    rw [h.forward a ha, Option.map_some]
  · intro hboth b hb
    obtain ⟨a, ha, rfl⟩ := Option.map_eq_some_iff.mp hb
    rw [h.backward hboth a ha, Option.map_some]

theorem bind {x y : Option α} {f g : α → Option β} (h : Agree both x y)
    (hfg : ∀ a, x = some a → y = some a → Agree both (f a) (g a)) :
    Agree both (x.bind f) (y.bind g) := by
  constructor
  · intro b hb
    obtain ⟨a, ha, hfa⟩ := Option.bind_eq_some_iff.mp hb
    have hy := h.forward a ha
    rw [hy, Option.bind_some]
    exact (hfg a ha hy).forward b hfa
  · intro hboth b hb
    obtain ⟨a, ha, hga⟩ := Option.bind_eq_some_iff.mp hb
    have hx := h.backward hboth a ha
    rw [hx, Option.bind_some]
    exact (hfg a hx ha).backward hboth b hga

end Agree

@[simp] theorem toOption_mapError {ε ε' α : Type} (f : ε → ε') (x : Except ε α) :
    (x.mapError f).toOption = x.toOption := by
  cases x <;> rfl

theorem toOption_map {ε α β : Type} (f : α → β) (x : Except ε α) :
    (x.map f).toOption = x.toOption.map f := by
  cases x <;> rfl

theorem toOption_bind {ε α β : Type} (x : Except ε α) (f : α → Except ε β) :
    (x >>= f).toOption = x.toOption.bind fun a => (f a).toOption := by
  cases x <;> rfl

theorem Fault.toOption_both {α β : Type} (x : Except Fault (β → α)) (y : Except Fault β) :
    (Fault.both x y).toOption = x.toOption.bind fun f => y.toOption.map f := by
  cases x <;> cases y <;> rfl

namespace Mode

variable {α : Type}

/-- The value of a field from the part that stands for it, if there is one. -/
def given? (mode : Mode α) : Option Part → Option α
  | some part => (mode.read part).toOption
  | none => mode.absent?

/-- Parts that are read alike where the field is read give the field the same value. -/
theorem given?_agree {both : Bool} (mode : Mode α) {part part' : Part}
    (hnull : part'.value.isNull = part.value.isNull)
    (hread : Agree both (part.read mode.place).toOption (part'.read mode.place).toOption) :
    Agree both (mode.given? (some part)) (mode.given? (some part')) := by
  cases hvalue : part.value.isNull with
  | false =>
      rw [hvalue] at hnull
      simp only [given?, mode.read_of_not_null hvalue, mode.read_of_not_null hnull, toOption_map]
      exact hread.map _
  | true =>
      rw [hvalue] at hnull
      cases mode with
      | required place => exact hread
      | optional place => exact .of_eq (by simp [given?, read, hvalue, hnull])
      | nullable place fallback => exact .of_eq (by simp [given?, read, hvalue, hnull])
      | defaulted place fallback => exact hread

end Mode

namespace Record

/-- One of the fields of a record, at any depth of the records that it takes in. -/
inductive HasField {β : Type} (key : String) (mode : Mode β) : {α : Type} → Record α → Prop
  | last {α : Type} {init : Record (β → α)} : HasField key mode (.field init key mode)
  | field {α γ : Type} {init : Record (γ → α)} {other : String} {otherMode : Mode γ}
      (h : HasField key mode init) : HasField key mode (.field init other otherMode)
  | flatten {α γ : Type} {init : Record (γ → α)} {inner : Record γ} (h : HasField key mode init) :
      HasField key mode (.flatten init inner)
  | within {α γ : Type} {init : Record (γ → α)} {inner : Record γ} (h : HasField key mode inner) :
      HasField key mode (.flatten init inner)

theorem HasField.mem_keys {β : Type} {key : String} {mode : Mode β} {α : Type} {fields : Record α}
    (h : fields.HasField key mode) : key ∈ fields.keys := by
  induction h with
  | last => simp [keys]
  | field _ ih => simp [keys, ih]
  | flatten _ ih => simp [keys, ih]
  | within _ ih => simp [keys, ih]

/-- The field of a record that an item of an array is read as. -/
inductive HasItem {β : Type} (mode : Mode β) : Nat → {α : Type} → Record α → Prop
  | last {α : Type} {init : Record (β → α)} {key : String} :
      HasItem mode init.size (.field init key mode)
  | field {i : Nat} {α γ : Type} {init : Record (γ → α)} {other : String} {otherMode : Mode γ}
      (h : HasItem mode i init) : HasItem mode i (.field init other otherMode)

/-- A record from what stands under each key. -/
def given? (given : String → Option Part) : {α : Type} → Record α → Option α
  | _, .build value => some value
  | _, .field init key mode =>
    (init.given? given).bind fun f => (mode.given? (given key)).map f
  | _, .flatten init inner => (init.given? given).bind fun f => (inner.given? given).map f

/-- A record of its own fields only, from what stands at each place of an array. -/
def placed? (given : Nat → Option Part) : {α : Type} → Record α → Option α
  | _, .build value => some value
  | _, .field init _ mode =>
    (init.placed? given).bind fun f => (mode.given? (given init.size)).map f
  | _, .flatten _ _ => none

theorem toOption_readField {β : Type} (key : String) (mode : Mode β) (base : Nat)
    (entries : List (String × Part)) :
    (readField key mode base entries).toOption = mode.given? (Json.get? key entries) := by
  rw [← map_find?, readField]
  cases find? key entries with
  | none => cases mode <;> rfl
  | some found => exact toOption_mapError _ _

theorem toOption_readEntries (entries : List (String × Part)) (base : Nat) {α : Type}
    (fields : Record α) :
    (readEntries entries base fields).toOption =
      fields.given? fun key => Json.get? key entries := by
  induction fields generalizing base with
  | build value => rfl
  | field init key mode ih =>
      rw [readEntries, Fault.toOption_both, ih, toOption_readField, given?]
  | flatten init inner ih ihInner =>
      rw [readEntries, Fault.toOption_both, ih, ihInner, given?]

theorem toOption_readItems (name : String) (count : Nat) (items : List Part) {α : Type}
    (fields : Record α) :
    (readItems name count items fields).toOption = fields.placed? fun i => items[i]? := by
  induction fields with
  | build value => rfl
  | field init key mode ih =>
      rw [readItems, Fault.toOption_both, ih, placed?]
      congr 1
      funext f
      congr 1
      cases items[init.size]? with
      | none => cases mode <;> rfl
      | some part => exact toOption_mapError _ _
  | flatten init inner ih ihInner =>
      rw [readItems, Fault.toOption_both, ih, placed?]
      cases init.placed? fun i => items[i]? <;> rfl

section

variable {both : Bool} {α : Type} {fields : Record α}

theorem given?_agree {given given' : String → Option Part}
    (h : ∀ (β : Type) (key : String) (mode : Mode β), fields.HasField key mode →
      Agree both (mode.given? (given key)) (mode.given? (given' key))) :
    Agree both (fields.given? given) (fields.given? given') := by
  induction fields with
  | build value => exact .of_eq rfl
  | field init key mode ih =>
      refine (ih fun β other otherMode hfield => h β other otherMode hfield.field).bind
        fun f _ _ => ?_
      exact (h _ key mode .last).map f
  | flatten init inner ih ihInner =>
      refine (ih fun β key mode hfield => h β key mode hfield.flatten).bind fun f _ _ => ?_
      exact (ihInner fun β key mode hfield => h β key mode hfield.within).map f

/-- A record is read from what stands under its keys. -/
theorem given?_congr {given given' : String → Option Part}
    (h : ∀ key ∈ fields.keys, given key = given' key) :
    fields.given? given = fields.given? given' := by
  refine (given?_agree fun β key mode hfield => ?_).eq
  rw [h key hfield.mem_keys]
  exact .of_eq rfl

theorem placed?_agree {given given' : Nat → Option Part}
    (h : ∀ (i : Nat) (β : Type) (mode : Mode β), fields.HasItem mode i →
      Agree both (mode.given? (given i)) (mode.given? (given' i))) :
    Agree both (fields.placed? given) (fields.placed? given') := by
  induction fields with
  | build value => exact .of_eq rfl
  | field init key mode ih =>
      refine (ih fun i β other hitem => h i β other hitem.field).bind fun f _ _ => ?_
      exact (h init.size _ mode .last).map f
  | flatten init inner ih ihInner => exact .of_eq rfl

end

end Record

end Ambient
