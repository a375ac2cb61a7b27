import Ambient.Proofs.Schema.Spots
import Ambient.Schema.Document

namespace Ambient

/-!
# Spots in a document

The statements of a document are its only part that is read as nodes. So the spots of a
document are those of its list of statements, and the program in it changes with the value
at one of them as the statements do.
-/

namespace Document

/-- The program in a value that a whole text writes. -/
def programOf (value : Json) : Except ReadError Program :=
  match outlineFault? (.whole value) with
  | some fault => .error fault
  | none => read value

/-- A program with one spot left open. -/
inductive ProgramSpot (inner : Place) : (Json → Json) → Prop
  | entry {context : Json → Json} (before after : List (String × Json))
      (spot : Json.Spot inner (.list .statement) context) :
      ProgramSpot inner fun value => .object (before ++ ("body", context value) :: after)
  | item {context : Json → Json} (after : List Json)
      (spot : Json.Spot inner (.list .statement) context) :
      ProgramSpot inner fun value => .array (context value :: after)

/-- A document with one spot left open. -/
inductive Spot (inner : Place) : (Json → Json) → Prop
  | body {context : Json → Json} (before after : List (String × Json))
      (kind_eq : Json.get? "type" (before ++ after) = some (.string "Program"))
      (spot : Json.Spot inner (.list .statement) context) :
      Spot inner fun value => .object (before ++ ("body", context value) :: after)
  | bodyItem {context : Json → Json} (after : List Json)
      (spot : Json.Spot inner (.list .statement) context) :
      Spot inner fun value => .array (.string "Program" :: context value :: after)
  | program {context : Json → Json} (before after : List (String × Json))
      (kind_eq : Json.get? "type" (before ++ after) = some (.string "File"))
      (spot : ProgramSpot inner context) :
      Spot inner fun value => .object (before ++ ("program", context value) :: after)
  | programItem {context : Json → Json} (after : List Json) (spot : ProgramSpot inner context) :
      Spot inner fun value => .array (.string "File" :: context value :: after)

theorem ProgramSpot.comp {inner middle : Place} {outer context : Json → Json}
    (h : ProgramSpot middle outer) (hinner : Json.Spot inner middle context) :
    ProgramSpot inner fun value => outer (context value) := by
  cases h with
  | entry before after spot => exact .entry before after (spot.comp hinner)
  | item after spot => exact .item after (spot.comp hinner)

theorem Spot.comp {inner middle : Place} {outer context : Json → Json}
    (h : Spot middle outer) (hinner : Json.Spot inner middle context) :
    Spot inner fun value => outer (context value) := by
  cases h with
  | body before after hkind spot => exact .body before after hkind (spot.comp hinner)
  | bodyItem after spot => exact .bodyItem after (spot.comp hinner)
  | program before after hkind spot => exact .program before after hkind (spot.comp hinner)
  | programItem after spot => exact .programItem after (spot.comp hinner)

/-- A program that has been read from a value with a hole for what is read of the value at
`inner`, and how other values are read instead. -/
def Opens (inner : Place) (value : Json) (program : Program)
    (read : Json → Except ReadError Program) : Prop :=
  ∃ f x, Place.Hole inner (.list .statement) f ∧ value.readAt inner = .ok x ∧
    program = ⟨f x⟩ ∧ ∀ other : Json, other.isNull = false →
      read other = (other.readAt inner).map fun y => ⟨f y⟩

theorem Opens.congr {inner : Place} {value : Json} {program : Program}
    {read read' : Json → Except ReadError Program} (h : Opens inner value program read)
    (hsame : ∀ other, read' other = read other) : Opens inner value program read' := by
  rwa [funext hsame]

section

variable {α : Type} {key : String} {read : Json → Except ReadError α}

/-- The value that is read under a key is the only one that matters, and it is the only
one with the key. -/
theorem single?_append {before after : List (String × Json)} {value : Json} {result : Option α}
    (h : single? key read (before ++ (key, value) :: after) = .ok result) :
    (read value).map some = .ok result ∧ ∀ other,
      single? key read (before ++ (key, other) :: after) = (read other).map some := by
  induction before with
  | nil =>
      have hequation (other : Json) : single? key read ((key, other) :: after) =
          read other >>= fun found =>
            if (Json.get? key after).isSome then .error (.duplicateField key)
            else .ok (some found) := by
        rw [single?, if_neg (by simp)]
        rfl
      rw [List.nil_append, hequation] at h
      -- A later value under the key would be an error.
      cases hlater : (Json.get? key after).isSome with
      | true =>
          rw [hlater] at h
          cases hvalue : read value <;> rw [hvalue] at h <;> cases h
      | false =>
          have hread (other : Json) : single? key read ([] ++ (key, other) :: after) =
              (read other).map some := by
            rw [List.nil_append, hequation, hlater]
            rfl
          exact ⟨by rw [← hread, List.nil_append, hequation, h], hread⟩
  | cons entry before ih =>
      by_cases hkey : entry.1 = key
      · -- The value would be the second one under the key.
        have hequation (other : Json) : single? key read
            (entry :: before ++ (key, other) :: after) =
              read entry.2 >>= fun _ => .error (.duplicateField key) := by
          have hlater : (Json.get? key (before ++ (key, other) :: after)).isSome = true := by
            rw [Json.get?_append, Json.get?, if_pos rfl]
            cases Json.get? key before <;> rfl
          rw [List.cons_append, single?, if_neg (by simp [hkey]), hlater]
          rfl
        rw [hequation] at h
        cases hentry : read entry.2 <;> rw [hentry] at h <;> cases h
      · have hequation (other : Json) : single? key read
            (entry :: before ++ (key, other) :: after) =
              single? key read (before ++ (key, other) :: after) := by
          rw [List.cons_append, single?, if_pos hkey]
        rw [hequation] at h
        obtain ⟨hvalue, hothers⟩ := ih h
        exact ⟨hvalue, fun other => by rw [hequation, hothers]⟩

end

/-- What is wrong with the kinds of a document does not hang on its other entries. -/
theorem entriesFault?_append {key : String} (hkey : key ≠ "type") (seen : Bool)
    (before after : List (String × Json)) (value : Json) :
    entriesFault? seen (before ++ (key, value) :: after) =
      entriesFault? seen (before ++ after) := by
  induction before generalizing seen with
  | nil => rw [List.nil_append, entriesFault?, if_pos hkey, List.nil_append]
  | cons entry before ih => simp only [List.cons_append, entriesFault?, ih]

theorem readBody_of_not_null {value : Json} (h : value.isNull = false) :
    readBody value = value.readAt (.list .statement) := by
  have hpart : value.asPart.value.isNull = false := h
  rw [readBody, Mode.read, if_neg (by simp [hpart])]
  rfl

section

variable {inner : Place} {context : Json → Json} {value : Json} {program : Program}

theorem opens_readBody (spot : Json.Spot inner (.list .statement) context)
    (hvalue : value.isNull = false) {statements : List Statement}
    (h : readBody (context value) = .ok statements) {read : Json → Except ReadError Program}
    (hread : ∀ other, read other = (readBody (context other)).map Program.mk) :
    Opens inner value ⟨statements⟩ read := by
  rw [readBody_of_not_null (spot.isNull_eq_false hvalue)] at h
  obtain ⟨f, x, hole, hx, rfl, hothers⟩ := spot.exists_hole hvalue h
  refine ⟨f, x, hole, hx, rfl, fun other hother => ?_⟩
  rw [hread, readBody_of_not_null (spot.isNull_eq_false hother), hothers other hother]
  cases other.readAt inner <;> rfl

theorem ProgramSpot.opens (h : ProgramSpot inner context) (hvalue : value.isNull = false)
    (hread : readProgram (context value) = .ok program) :
    Opens inner value program fun other => readProgram (context other) := by
  cases h with
  | @entry context before after spot =>
      have hequation (other : Json) :
          readProgram (.object (before ++ ("body", context other) :: after)) =
            (single? "body" readBody (before ++ ("body", context other) :: after)).map
              fun body => ⟨body.getD []⟩ := rfl
      rw [hequation] at hread
      cases hbody : single? "body" readBody (before ++ ("body", context value) :: after) with
      | error e =>
          rw [hbody] at hread
          cases hread
      | ok result =>
          rw [hbody] at hread
          cases hread
          obtain ⟨hresult, hothers⟩ := single?_append hbody
          cases hstatements : readBody (context value) with
          | error e =>
              rw [hstatements] at hresult
              cases hresult
          | ok statements =>
              rw [hstatements] at hresult
              cases hresult
              refine opens_readBody spot hvalue hstatements fun other => ?_
              rw [hequation, hothers]
              cases readBody (context other) <;> rfl
  | @item context after spot =>
      cases hstatements : readBody (context value) with
      | error e =>
          simp only [readProgram, hstatements] at hread
          cases hread
      | ok statements =>
          cases after with
          | cons next after =>
              simp only [readProgram, hstatements] at hread
              cases hread
          | nil =>
              simp only [readProgram, hstatements] at hread
              cases hread
              refine opens_readBody spot hvalue hstatements fun other => ?_
              cases hother : readBody (context other) <;> simp only [readProgram, hother] <;> rfl

theorem read_of_program {entries : List (String × Json)}
    (h : Json.get? "type" entries = some (.string "Program")) :
    read (.object entries) = readProgram (.object entries) := by
  simp only [read, h]
  rfl

theorem read_of_file {entries : List (String × Json)}
    (h : Json.get? "type" entries = some (.string "File")) :
    read (.object entries) = (single? "program" readProgram entries >>= fun program =>
      match program with
      | some program => .ok program
      | none => .error (.missingField "program")) := by
  simp only [read, h]
  rfl

theorem programOf_object (entries : List (String × Json)) :
    programOf (.object entries) = match entriesFault? false entries with
      | some fault => .error fault
      | none => read (.object entries) := rfl

theorem programOf_body {before after : List (String × Json)}
    (hkind : Json.get? "type" (before ++ after) = some (.string "Program")) (body : Json) :
    programOf (.object (before ++ ("body", body) :: after)) =
      match entriesFault? false (before ++ after) with
      | some fault => .error fault
      | none => readProgram (.object (before ++ ("body", body) :: after)) := by
  have hkind' : Json.get? "type" (before ++ ("body", body) :: after) =
      some (.string "Program") := by
    rw [Json.get?_append_of_ne (by decide), hkind]
  rw [programOf_object, entriesFault?_append (by decide), read_of_program hkind']

theorem programOf_program {before after : List (String × Json)}
    (hkind : Json.get? "type" (before ++ after) = some (.string "File")) (found : Json) :
    programOf (.object (before ++ ("program", found) :: after)) =
      match entriesFault? false (before ++ after) with
      | some fault => .error fault
      | none => single? "program" readProgram (before ++ ("program", found) :: after) >>=
          fun program => match program with
            | some program => .ok program
            | none => .error (.missingField "program") := by
  have hkind' : Json.get? "type" (before ++ ("program", found) :: after) =
      some (.string "File") := by
    rw [Json.get?_append_of_ne (by decide), hkind]
  rw [programOf_object, entriesFault?_append (by decide), read_of_file hkind']

theorem programOf_items (found : Json) (after : List Json) :
    programOf (.array (.string "File" :: found :: after)) =
      readProgram found >>= fun program =>
        if after ≠ [] then .error (.invalidLength (after.length + 1) (.elements 1))
        else .ok program := by
  change readFileItems (found :: after) = _
  rw [readFileItems]
  rfl

/-- If a document can be read, so can any document that differs from it at one spot by a
value that can be read there, and it is read as the same but for what is read there. -/
theorem Spot.opens (h : Spot inner context) (hvalue : value.isNull = false)
    (hread : programOf (context value) = .ok program) :
    Opens inner value program fun other => programOf (context other) := by
  cases h with
  | @body context before after hkind spot =>
      rw [programOf_body hkind] at hread
      cases hfault : entriesFault? false (before ++ after) with
      | some fault =>
          rw [hfault] at hread
          cases hread
      | none =>
          rw [hfault] at hread
          refine ((ProgramSpot.entry before after spot).opens hvalue hread).congr fun other => ?_
          rw [programOf_body hkind, hfault]
  | @bodyItem context after spot => exact (ProgramSpot.item after spot).opens hvalue hread
  | @program context before after hkind spot =>
      rw [programOf_program hkind] at hread
      cases hfault : entriesFault? false (before ++ after) with
      | some fault =>
          rw [hfault] at hread
          cases hread
      | none =>
          rw [hfault] at hread
          cases hresult : single? "program" readProgram
              (before ++ ("program", context value) :: after) with
          | error e =>
              rw [hresult] at hread
              cases hread
          | ok result =>
              rw [hresult] at hread
              obtain ⟨hfound, hothers⟩ := single?_append hresult
              cases hwithin : readProgram (context value) with
              | error e =>
                  rw [hwithin] at hfound
                  cases hfound
              | ok found =>
                  rw [hwithin] at hfound
                  cases hfound
                  cases hread
                  refine (spot.opens hvalue hwithin).congr fun other => ?_
                  rw [programOf_program hkind, hfault, hothers]
                  cases readProgram (context other) <;> rfl
  | @programItem context after spot =>
      rw [programOf_items] at hread
      cases hwithin : readProgram (context value) with
      | error e =>
          rw [hwithin] at hread
          cases hread
      | ok found =>
          rw [hwithin] at hread
          cases after with
          | cons next after => cases hread
          | nil =>
              cases hread
              refine (spot.opens hvalue hwithin).congr fun other => ?_
              rw [programOf_items]
              cases readProgram (context other) <;> rfl

end

end Document

theorem Json.outline_of_parse {text : String} {value : Json} (h : Json.parse text = .ok value) :
    Json.outline text = (.whole value, none) := by
  unfold Json.parse at h
  split at h
  next => cases h
  next hfound =>
      cases h
      exact hfound
  next => cases h

theorem Program.parse_of_json {text : String} {value : Json} (h : Json.parse text = .ok value) :
    Program.parse text = (Document.programOf value).mapError .data := by
  have houtline := Json.outline_of_parse h
  unfold Program.parse Document.programOf
  rw [houtline]
  dsimp only
  cases Document.outlineFault? (.whole value) with
  | some fault => rfl
  | none => cases Document.read value <;> rfl

theorem Program.programOf_of_parse {text : String} {value : Json} {program : Program}
    (h : Json.parse text = .ok value) (hprogram : Program.parse text = .ok program) :
    Document.programOf value = .ok program := by
  rw [parse_of_json h] at hprogram
  cases hread : Document.programOf value with
  | error e =>
      rw [hread] at hprogram
      cases hprogram
  | ok found =>
      rw [hread] at hprogram
      cases hprogram
      rfl

end Ambient
