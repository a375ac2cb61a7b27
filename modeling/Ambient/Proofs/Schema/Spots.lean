import Ambient.Proofs.Schema.Holes

namespace Ambient

/-!
# Spots in a value

A spot is a point of a value together with the place that a value standing there is read
at. What the whole value is read as changes with the value at a spot only where that
value is read, and whatever can be read there can be read as a part of the whole.
-/

namespace Shape

variable {α : Type}

/-- The record that an object of a kind is read as, or any other value if there is no
kind. -/
def record? (kind : Option String) : {α : Type} → Shape α → Option (Record α)
  | _, .record _ _ fields => some fields
  | _, .tagged cases other => kind.map fun kind => (Json.get? kind cases).getD (other kind)
  | _, _ => none

/-- No record of a shape has two fields with one key. -/
def DistinctKeys : {α : Type} → Shape α → Prop
  | _, .record _ _ fields => fields.keys.Nodup
  | _, .tagged cases other =>
    (∀ case ∈ cases, case.2.keys.Nodup) ∧ ∀ kind, (other kind).keys.Nodup
  | _, _ => True

theorem read_object {shape : Shape α} {entries : List (String × Part)} {fields : Record α}
    (h : shape.record? (tag? entries) = some fields) :
    shape.read (.object entries) = (Record.readEntries entries 0 fields).mapError (·.error) := by
  cases shape with
  | record name kept own =>
      cases h
      rfl
  | tagged cases other =>
      obtain ⟨kind, hkind, rfl⟩ := Option.map_eq_some_iff.mp h
      rw [read, hkind]
  | _ => cases h

theorem exists_record_of_record?_none {shape : Shape α} {fields : Record α}
    (h : shape.record? none = some fields) :
    ∃ name kept, shape = .record name kept fields := by
  cases shape with
  | record name kept own =>
      cases h
      exact ⟨name, kept, rfl⟩
  | _ => cases h

theorem DistinctKeys.nodup {shape : Shape α} (h : shape.DistinctKeys) {kind : Option String}
    {fields : Record α} (hrecord : shape.record? kind = some fields) : fields.keys.Nodup := by
  cases shape with
  | record name kept own =>
      cases hrecord
      exact h
  | tagged cases other =>
      obtain ⟨kind, rfl, rfl⟩ := Option.map_eq_some_iff.mp hrecord
      cases hcase : Json.get? kind cases with
      | none => exact h.2 kind
      | some fields => exact h.1 _ (Json.mem_of_get? hcase)
  | _ => cases hrecord

theorem readArray_eq_ok {name : String} {kept : Bool} {fields : Record α} {items : List Part}
    {result : α} (h : readArray name kept fields items = .ok result) :
    ∃ built, Record.readItems name fields.size items fields = .ok built ∧
      ¬ fields.size < items.length ∧ built = result := by
  unfold readArray at h
  dsimp only at h
  cases hbuilt : Record.readItems name fields.size items fields with
  | error fault =>
      rw [hbuilt] at h
      cases h
  | ok built =>
      rw [hbuilt] at h
      by_cases hcount : fields.size < items.length
      · simp [hcount, Except.mapError, bind, Except.bind, throw, throwThe,
          MonadExceptOf.throw] at h
      · refine ⟨built, rfl, hcount, ?_⟩
        simpa [hcount, Except.mapError, bind, Except.bind, pure, Except.pure] using h

/-- Where an item of a list is read, the list has a hole for it. -/
theorem exists_hole_of_readList {place : Place} {before after : List Part} {part : Part}
    {results : List place.Result}
    (h : readList place (before ++ part :: after) = .ok results) :
    ∃ xs x ys, part.read place = .ok x ∧ results = xs ++ x :: ys ∧
      ∀ other : Part, readList place (before ++ other :: after) =
        (other.read place).map fun y => xs ++ y :: ys := by
  induction before generalizing results with
  | nil =>
      rw [List.nil_append, readList] at h
      cases hread : part.read place with
      | error e =>
          rw [hread] at h
          cases h
      | ok x =>
          cases hrest : readList place after with
          | error e =>
              rw [hread, hrest] at h
              cases h
          | ok ys =>
              rw [hread, hrest] at h
              cases h
              refine ⟨[], x, ys, rfl, rfl, fun other => ?_⟩
              rw [List.nil_append, readList, hrest]
              cases other.read place <;> rfl
  | cons first before ih =>
      rw [List.cons_append, readList] at h
      cases hfirst : first.read place with
      | error e =>
          rw [hfirst] at h
          cases h
      | ok z =>
          cases hrest : readList place (before ++ part :: after) with
          | error e =>
              rw [hfirst, hrest] at h
              cases h
          | ok zs =>
              rw [hfirst, hrest] at h
              cases h
              obtain ⟨xs, x, ys, hread, rfl, hothers⟩ := ih hrest
              refine ⟨z :: xs, x, ys, hread, rfl, fun other => ?_⟩
              rw [List.cons_append, readList, hfirst, hothers]
              cases other.read place <;> rfl

end Shape

namespace Place

theorem shape_distinctKeys (place : Place) : place.shape.DistinctKeys := by
  cases place with
  | text | flag | offset | double | list | commentKind | methodKind => trivial
  | propertyKey | typeRef | type | objectMember | pattern | patternMember | importSpecifier
  | exportSpecifier | superclass | classMember =>
      exact ⟨by decide, fun kind => List.nodup_nil⟩
  | statement =>
      have hother : ["start", "end", "leadingComments"].Nodup := by decide
      exact ⟨by decide, fun kind => hother⟩
  | comment kept =>
      rw [shape, Shape.DistinctKeys]
      cases kept <;> decide
  | _ =>
      rw [shape, Shape.DistinctKeys]
      decide

/-- What a place can be read as, but for one result of another place inside it. -/
inductive Hole (inner : Place) : (place : Place) → (inner.Result → place.Result) → Prop
  | here : Hole inner inner fun result => result
  | item {place : Place} {f : inner.Result → place.Result} (before after : List place.Result)
      (hole : Hole inner place f) :
      Hole inner (.list place) fun result => before ++ f result :: after
  | field {place part : Place} {kind : Option String} {fields : Record place.Result}
      {f : part.Result → place.Result} {g : inner.Result → part.Result}
      (record_eq : place.shape.record? kind = some fields) (last : fields.Hole part f)
      (hole : Hole inner part g) : Hole inner place fun result => f (g result)

end Place

namespace Json

/-- The kind of the node with these entries. -/
def kind? (entries : List (String × Json)) : Option String := (last? "type" entries).bind text?

theorem tag?_distinct (entries : List (String × Json)) :
    Shape.tag? (distinct (entryParts entries)) = kind? entries := by
  rw [Shape.tag?, get?_distinct, entryParts_eq_map, last?_map, kind?]
  cases last? "type" entries <;> rfl

theorem readAt_list (place : Place) (before after : List Json) (value : Json) :
    (Json.array (before ++ value :: after)).readAt (.list place) =
      Shape.readList place (before.map asPart ++ value.asPart :: after.map asPart) := by
  change Shape.readList place (parts _) = _
  rw [parts_eq_map, List.map_append, List.map_cons]

/-- An entry that counts is read among the entries that count. -/
theorem exists_readAt_object {place : Place} {key : String} {fields : Record place.Result}
    (before : List (String × Json)) {after : List (String × Json)} (hkey : key ≠ "type")
    (hlast : key ∉ after.map Prod.fst)
    (hrecord : place.shape.record? (kind? (before ++ after)) = some fields) :
    ∃ front back, key ∉ front.map Prod.fst ∧ ∀ value,
      (Json.object (before ++ (key, value) :: after)).readAt place =
        (Record.readEntries (front ++ (key, value.asPart) :: back) 0 fields).mapError
          (·.error) := by
  have hlastPart : key ∉ (after.map fun entry => (entry.1, entry.2.asPart)).map Prod.fst := by
    simpa using hlast
  obtain ⟨front, back, hfront, hdistinct⟩ :=
    exists_distinct_append (before.map fun entry => (entry.1, entry.2.asPart)) hlastPart
  refine ⟨front, back, hfront, fun value => ?_⟩
  have hentries : distinct (entryParts (before ++ (key, value) :: after)) =
      front ++ (key, value.asPart) :: back := by
    rw [entryParts_eq_map, List.map_append, List.map_cons, hdistinct]
  have hkind : place.shape.record? (Shape.tag? (distinct (entryParts
      (before ++ (key, value) :: after)))) = some fields := by
    rw [tag?_distinct, kind?, last?_append_of_ne hkey.symm]
    exact hrecord
  change place.shape.read (.object (distinct (entryParts _))) = _
  rw [Shape.read_object hkind, hentries]

theorem exists_readAt_array {place : Place} {fields : Record place.Result}
    (hrecord : place.shape.record? none = some fields) :
    ∃ name kept, ∀ before value after,
      (Json.array (before ++ value :: after)).readAt place =
        if fields.isPlain then Shape.readArray name kept fields
          (before.map asPart ++ value.asPart :: after.map asPart)
        else .error (.invalidType (.array []) (.record name)) := by
  obtain ⟨name, kept, hshape⟩ := Shape.exists_record_of_record?_none hrecord
  refine ⟨name, kept, fun before value after => ?_⟩
  change place.shape.read (.array (parts _)) = _
  rw [hshape, parts_eq_map, List.map_append, List.map_cons]
  rfl

/-- A value with one spot left open, where a value is read at `inner`. The whole is read
at `place`. -/
inductive Spot (inner : Place) : Place → (Json → Json) → Prop
  | here : Spot inner inner fun value => value
  | item {place : Place} {context : Json → Json} (before after : List Json)
      (spot : Spot inner place context) :
      Spot inner (.list place) fun value => .array (before ++ context value :: after)
  /-- Under a key that no later entry has. -/
  | entry {place part : Place} {context : Json → Json} {key : String}
      {fields : Record place.Result} (before after : List (String × Json))
      (key_ne : key ≠ "type") (last : key ∉ after.map Prod.fst)
      (record_eq : place.shape.record? (kind? (before ++ after)) = some fields)
      (place_eq : fields.place? key = some part) (spot : Spot inner part context) :
      Spot inner place fun value => .object (before ++ (key, context value) :: after)
  /-- In the array that a record may be given as. -/
  | element {place part : Place} {context : Json → Json} {fields : Record place.Result}
      (before after : List Json) (record_eq : place.shape.record? none = some fields)
      (place_eq : fields.placeAt? before.length = some part) (spot : Spot inner part context) :
      Spot inner place fun value => .array (before ++ context value :: after)

namespace Spot

variable {inner middle place : Place} {context : Json → Json}

/-- A spot at a spot is a spot. -/
theorem comp {outer : Json → Json} (h : Spot middle place outer)
    (hinner : Spot inner middle context) : Spot inner place fun value => outer (context value) := by
  induction h with
  | here => exact hinner
  | item before after spot ih => exact .item before after ih
  | entry before after hkey hlast hrecord hplace spot ih =>
      exact .entry before after hkey hlast hrecord hplace ih
  | element before after hrecord hplace spot ih =>
      exact .element before after hrecord hplace ih

theorem isNull_eq_false (h : Spot inner place context) {value : Json}
    (hvalue : value.isNull = false) : (context value).isNull = false := by
  cases h <;> first | exact hvalue | rfl

/-- If a value can be read, so can any value that differs from it at one spot where it can
be read, and it is read as the same but for what is read there. If it cannot be read
there, the whole cannot be read for the same reason. -/
theorem exists_hole (h : Spot inner place context) {value : Json}
    (hvalue : value.isNull = false) {result : place.Result}
    (hread : (context value).readAt place = .ok result) :
    ∃ f x, Place.Hole inner place f ∧ value.readAt inner = .ok x ∧ result = f x ∧
      ∀ other : Json, other.isNull = false →
        (context other).readAt place = (other.readAt inner).map f := by
  -- Induction on the way to the spot; at each step one part of a value is another one.
  induction h with
  | here =>
      refine ⟨_, result, .here, hread, rfl, fun other _ => ?_⟩
      cases other.readAt inner <;> rfl
  | @item part context before after spot ih =>
      rw [readAt_list] at hread
      obtain ⟨xs, found, ys, hfound, rfl, hothers⟩ := Shape.exists_hole_of_readList hread
      obtain ⟨f, x, hole, hx, rfl, hinner⟩ := ih hfound
      refine ⟨_, x, .item xs ys hole, hx, rfl, fun other hother => ?_⟩
      have hpart : (context other).asPart.read part = (other.readAt inner).map f :=
        hinner other hother
      rw [readAt_list, hothers, hpart]
      cases other.readAt inner <;> rfl
  | @entry place part context key fields before after hkey hlast hrecord hplace spot ih =>
      obtain ⟨front, back, hfront, hobject⟩ := exists_readAt_object before hkey hlast hrecord
      rw [hobject] at hread
      cases hresult : Record.readEntries (front ++ (key, (context value).asPart) :: back) 0
          fields with
      | error fault =>
          rw [hresult] at hread
          cases hread
      | ok built =>
          rw [hresult] at hread
          cases hread
          obtain ⟨f, found, position, last, hfound, rfl, hothers⟩ :=
            Record.exists_hole_of_readEntries hfront
              (place.shape_distinctKeys.nodup hrecord) hplace (spot.isNull_eq_false hvalue) hresult
          obtain ⟨g, x, hole, hx, rfl, hinner⟩ := ih hfound
          refine ⟨_, x, .field hrecord last hole, hx, rfl, fun other hother => ?_⟩
          have hpart : (context other).asPart.read part = (other.readAt inner).map g :=
            hinner other hother
          rw [hobject, hothers _ (spot.isNull_eq_false hother), hpart]
          cases other.readAt inner <;> rfl
  | @element place part context fields before after hrecord hplace spot ih =>
      obtain ⟨name, kept, harray⟩ := exists_readAt_array hrecord
      rw [harray] at hread
      cases hplain : fields.isPlain with
      | false =>
          rw [hplain] at hread
          cases hread
      | true =>
          rw [hplain, if_pos rfl] at hread
          obtain ⟨built, hbuilt, hcount, rfl⟩ := Shape.readArray_eq_ok hread
          obtain ⟨f, found, position, last, hfound, rfl, hothers⟩ :=
            Record.exists_hole_of_readItems (by simpa using hplace)
              (spot.isNull_eq_false hvalue) hbuilt
          obtain ⟨g, x, hole, hx, rfl, hinner⟩ := ih hfound
          refine ⟨_, x, .field hrecord last hole, hx, rfl, fun other hother => ?_⟩
          have hpart : (context other).asPart.read part = (other.readAt inner).map g :=
            hinner other hother
          rw [harray, hplain, if_pos rfl, Shape.readArray,
            hothers _ (spot.isNull_eq_false hother), hpart]
          cases other.readAt inner with
          | error e => rfl
          | ok y => exact if_neg (by simpa using hcount)

end Spot

end Json

end Ambient
