import Ambient.Proofs.Schema.Fields
import Ambient.Proofs.Schema.Unmodelled

namespace Ambient

/-!
# Keys that are not looked at

A node is read by the keys of its kind. Entries under other keys may be added to it, or
taken away, at any depth of a document: the document can still be read, or still cannot be
read, and as the same program. A node of a kind that is not modelled has hardly any keys.
-/

theorem toOption_eq_some_iff {ε α : Type} {x : Except ε α} {a : α} :
    x.toOption = some a ↔ x = .ok a := by
  cases x <;> simp [Except.toOption]

theorem toOption_eq_of_iff {ε α : Type} {x y : Except ε α} (h : ∀ a, x = .ok a ↔ y = .ok a) :
    x.toOption = y.toOption :=
  Option.ext fun a => by rw [toOption_eq_some_iff, toOption_eq_some_iff, h]

/-- The keys that an object of a kind is read by, if a node may stand here. -/
def Shape.keys? (kind : Option String) : {α : Type} → Shape α → Option (List String)
  | _, .record _ _ fields => some fields.keys
  | _, .tagged cases other =>
    some ("type" :: (kind.map fun kind => ((Json.get? kind cases).getD (other kind)).keys).getD [])
  | _, _ => none

theorem Shape.toOption_read_congr {α : Type} {shape : Shape α}
    {entries entries' : List (String × Part)} {keys : List String}
    (hkeys : shape.keys? (tag? entries) = some keys)
    (hsame : ∀ key ∈ keys, Json.get? key entries' = Json.get? key entries) :
    (shape.read (.object entries')).toOption = (shape.read (.object entries)).toOption := by
  have hrecord {fields : Record α} (hfields : ∀ key ∈ fields.keys, key ∈ keys) :
      ((Record.readEntries entries' 0 fields).mapError (·.error)).toOption =
        ((Record.readEntries entries 0 fields).mapError (·.error)).toOption := by
    simp only [toOption_mapError, Record.toOption_readEntries]
    exact Record.given?_congr fun key hkey => hsame key (hfields key hkey)
  cases shape with
  | record name kept fields =>
      cases hkeys
      exact hrecord fun key hkey => hkey
  | tagged cases other =>
      cases hkeys
      have htag : tag? entries' = tag? entries := by
        rw [tag?, hsame "type" List.mem_cons_self, tag?]
      rw [read, read, htag]
      cases hkind : tag? entries with
      | none => rfl
      | some kind =>
          refine hrecord fun key hkey => List.mem_cons_of_mem _ ?_
          simpa [hkind] using hkey
  | _ => cases hkeys

theorem Place.keys?_of_not_mem {place : Place} {kind : String} (htagged : place.shape.kinds ≠ [])
    (hother : kind ∉ place.shape.kinds) :
    place.shape.keys? (some kind) =
      some ("type" :: if place = .statement then ["start", "end", "leadingComments"] else []) := by
  have hkeys {cases : List (String × Record place.Result)} {other : String → Record place.Result}
      (hshape : place.shape = .tagged cases other) :
      place.shape.keys? (some kind) = some ("type" :: (other kind).keys) := by
    rw [hshape] at hother
    rw [hshape, Shape.keys?, Option.map_some, Option.getD_some, Json.get?_of_not_mem hother,
      Option.getD_none]
  cases place with
  | statement | propertyKey | typeRef | type | objectMember | pattern | patternMember
  | importSpecifier | exportSpecifier | superclass | classMember => exact hkeys rfl
  | _ => exact absurd rfl htagged

namespace Json

/-- The entries of two nodes that may stand at a place, where one is the other with an entry
under a key that it is not read by, or both are of one kind that is not modelled. -/
inductive Alike (place : Place) : List (String × Json) → List (String × Json) → Prop
  | entry (before after : List (String × Json)) {keys : List String} (key : String) (value : Json)
      (keys_eq : place.shape.keys? (kind? (before ++ after)) = some keys) (other : key ∉ keys) :
      Alike place (before ++ after) (before ++ (key, value) :: after)
  | unmodelled {entries entries' : List (String × Json)} {kind : String}
      (tagged : place.shape.kinds ≠ []) (other : kind ∉ place.shape.kinds)
      (kind_eq : kind? entries = some kind) (kind_eq' : kind? entries' = some kind)
      (same : place = .statement → ∀ key ∈ ["start", "end", "leadingComments"],
        last? key entries' = last? key entries) : Alike place entries entries'

/-- An object is read by what counts under the keys of its kind. -/
theorem toOption_readAt_congr {place : Place} {entries entries' : List (String × Json)}
    {keys : List String} (hkeys : place.shape.keys? (kind? entries) = some keys)
    (hsame : ∀ key ∈ keys, last? key entries' = last? key entries) :
    ((Json.object entries').readAt place).toOption =
      ((Json.object entries).readAt place).toOption := by
  refine Shape.toOption_read_congr (by rwa [tag?_distinct]) fun key hkey => ?_
  simp only [get?_distinct, entryParts_eq_map, last?_map, hsame key hkey]

theorem last?_of_kind? {entries : List (String × Json)} {kind : String}
    (h : kind? entries = some kind) : last? "type" entries = some (.string kind) := by
  obtain ⟨value, hlast, htext⟩ := Option.bind_eq_some_iff.mp h
  cases value with
  | string name =>
      cases htext
      exact hlast
  | _ => cases htext

theorem Alike.toOption_readAt {place : Place} {entries entries' : List (String × Json)}
    (h : Alike place entries entries') :
    ((Json.object entries).readAt place).toOption =
      ((Json.object entries').readAt place).toOption := by
  symm
  cases h with
  | entry before after key value hkeys hother =>
      refine toOption_readAt_congr hkeys fun known hknown => last?_append_of_ne ?_ _ _ _
      rintro rfl
      exact hother hknown
  | unmodelled htagged hother hkind hkind' hsame =>
      refine toOption_readAt_congr (hkind ▸ Place.keys?_of_not_mem htagged hother)
        fun key hkey => ?_
      rw [List.mem_cons] at hkey
      rcases hkey with rfl | hkey
      · rw [last?_of_kind? hkind, last?_of_kind? hkind']
      · split at hkey
        next hstatement => exact hsame hstatement key hkey
        next => cases hkey

namespace Spot

variable {inner place : Place} {context : Json → Json} {a b : Json}

theorem readAt_eq_ok (spot : Spot inner place context) (ha : a.isNull = false)
    (hb : b.isNull = false) (h : (a.readAt inner).toOption = (b.readAt inner).toOption)
    {result : place.Result} (hread : (context a).readAt place = .ok result) :
    (context b).readAt place = .ok result := by
  obtain ⟨f, x, -, hx, rfl, hothers⟩ := spot.exists_hole ha hread
  rw [hx] at h
  rw [hothers b hb, toOption_eq_some_iff.mp h.symm]
  rfl

/-- Values that are read alike at a spot make values that are read alike as a whole. -/
theorem toOption_readAt_congr (spot : Spot inner place context) (ha : a.isNull = false)
    (hb : b.isNull = false) (h : (a.readAt inner).toOption = (b.readAt inner).toOption) :
    ((context a).readAt place).toOption = ((context b).readAt place).toOption :=
  toOption_eq_of_iff fun _ =>
    ⟨spot.readAt_eq_ok ha hb h, spot.readAt_eq_ok hb ha h.symm⟩

end Spot

/-- A value that is read at a place, and one that differs from it in one node somewhere
inside it. -/
inductive AlikeAt (place : Place) : Json → Json → Prop
  | node {inner : Place} {context : Json → Json} {entries entries' : List (String × Json)}
      (spot : Spot inner place context) (same : Alike inner entries entries') :
      AlikeAt place (context (.object entries)) (context (.object entries'))

end Json

namespace Document

/-- The keys that a document is read by. -/
def keys (entries : List (String × Json)) : List String :=
  match Json.get? "type" entries with
  | some (.string "File") => ["type", "program"]
  | some (.string "Program") => ["type", "body"]
  | _ => ["type"]

/-- A document with the program of a file left open. -/
inductive FileSpot : (Json → Json) → Prop
  | entry (before after : List (String × Json))
      (kind_eq : Json.get? "type" (before ++ after) = some (.string "File")) :
      FileSpot fun program => .object (before ++ ("program", program) :: after)
  | item (after : List Json) : FileSpot fun program => .array (.string "File" :: program :: after)

/-- A program that is read as one, and one that differs from it in one node. -/
inductive ProgramAlike : Json → Json → Prop
  | root {before after : List (String × Json)} (key : String) (value : Json)
      (other : key ≠ "body") :
      ProgramAlike (.object (before ++ after)) (.object (before ++ (key, value) :: after))
  | node {inner : Place} {context : Json → Json} {entries entries' : List (String × Json)}
      (spot : ProgramSpot inner context) (same : Json.Alike inner entries entries') :
      ProgramAlike (context (.object entries)) (context (.object entries'))

/-- A document, and one that differs from it in one node. The document itself and the
program of a file are such nodes. -/
inductive Alike : Json → Json → Prop
  | root {before after : List (String × Json)} (key : String) (value : Json)
      (other : key ∉ keys (before ++ after)) :
      Alike (.object (before ++ after)) (.object (before ++ (key, value) :: after))
  | program {context : Json → Json} {program program' : Json} (spot : FileSpot context)
      (same : ProgramAlike program program') : Alike (context program) (context program')
  | node {inner : Place} {context : Json → Json} {entries entries' : List (String × Json)}
      (spot : Spot inner context) (same : Json.Alike inner entries entries') :
      Alike (context (.object entries)) (context (.object entries'))

section

variable {α : Type} {key : String} {read : Json → Except ReadError α}

theorem single?_append_of_ne {other : String} (h : other ≠ key)
    (before after : List (String × Json)) (value : Json) :
    single? key read (before ++ (other, value) :: after) = single? key read (before ++ after) := by
  induction before with
  | nil => rw [List.nil_append, single?, if_pos h, List.nil_append]
  | cons entry before ih =>
      rw [List.cons_append, List.cons_append, single?, single?, ih,
        Json.get?_append_of_ne (Ne.symm h)]

theorem toOption_single?_congr (before after : List (String × Json)) {value value' : Json}
    (h : (read value).toOption = (read value').toOption) :
    (single? key read (before ++ (key, value) :: after)).toOption =
      (single? key read (before ++ (key, value') :: after)).toOption := by
  have hlater (before : List (String × Json)) (found : Json) :
      (Json.get? key (before ++ (key, found) :: after)).isSome = true := by
    rw [Json.get?_append, Json.get?, if_pos rfl]
    cases Json.get? key before <;> rfl
  induction before with
  | nil =>
      simp only [List.nil_append, single?, ne_eq, not_true_eq_false, if_false, toOption_bind, h]
  | cons entry before ih =>
      rw [List.cons_append, List.cons_append, single?, single?, hlater, hlater]
      split
      next => exact ih
      next => rfl

end

theorem readProgram_object (entries : List (String × Json)) :
    readProgram (.object entries) =
      (single? "body" readBody entries).map fun body => ⟨body.getD []⟩ := rfl

theorem kindOf_eq_ok {value : Json} {kind : Kind} (h : kindOf value = .ok kind) :
    value = .string "File" ∧ kind = .file ∨ value = .string "Program" ∧ kind = .program := by
  cases value with
  | string name =>
      have hread : Shape.readName kindNames none name = .ok kind := h
      by_cases hfile : "File" = name
      · subst hfile
        cases hread
        exact .inl ⟨rfl, rfl⟩
      by_cases hprogram : "Program" = name
      · subst hprogram
        cases hread
        exact .inr ⟨rfl, rfl⟩
      have hnone : Json.get? name kindNames = none := by
        simp [kindNames, Json.get?, hfile, hprogram]
      unfold Shape.readName at hread
      rw [hnone] at hread
      cases hread
  | _ => cases h

theorem type_mem_keys (entries : List (String × Json)) : "type" ∈ keys entries := by
  unfold keys
  split <;> exact List.mem_cons_self

theorem read_append {key : String} {before after : List (String × Json)}
    (h : key ∉ keys (before ++ after)) (value : Json) :
    read (.object (before ++ (key, value) :: after)) = read (.object (before ++ after)) := by
  have htype : "type" ≠ key := fun heq => h (heq ▸ type_mem_keys _)
  have hkind := Json.get?_append_of_ne htype before after value
  cases hfound : Json.get? "type" (before ++ after) with
  | none => simp only [read, hkind, hfound]
  | some found =>
      cases hkindOf : kindOf found with
      | error e =>
          simp only [read, hkind, hfound, hkindOf]
          rfl
      | ok kind =>
          obtain ⟨rfl, rfl⟩ | ⟨rfl, rfl⟩ := kindOf_eq_ok hkindOf
          · rw [keys, hfound] at h
            rw [read_of_file hfound, read_of_file (hkind.trans hfound),
              single?_append_of_ne (fun heq => h (by simp [heq]))]
          · rw [keys, hfound] at h
            rw [read_of_program hfound, read_of_program (hkind.trans hfound), readProgram_object,
              readProgram_object, single?_append_of_ne (fun heq => h (by simp [heq]))]

theorem programOf_append {key : String} {before after : List (String × Json)}
    (h : key ∉ keys (before ++ after)) (value : Json) :
    programOf (.object (before ++ (key, value) :: after)) =
      programOf (.object (before ++ after)) := by
  have htype : key ≠ "type" := fun heq => h (heq ▸ type_mem_keys _)
  rw [programOf_object, programOf_object, entriesFault?_append htype, read_append h]

theorem readProgram_append {key : String} (h : key ≠ "body") (before after : List (String × Json))
    (value : Json) :
    readProgram (.object (before ++ (key, value) :: after)) =
      readProgram (.object (before ++ after)) := by
  rw [readProgram_object, readProgram_object, single?_append_of_ne h]

/-- The program of a file is read apart from the rest of the file. -/
theorem FileSpot.toOption_programOf_congr {context : Json → Json} (spot : FileSpot context)
    {a b : Json} (h : (readProgram a).toOption = (readProgram b).toOption) :
    (programOf (context a)).toOption = (programOf (context b)).toOption := by
  cases spot with
  | entry before after hkind =>
      rw [programOf_program hkind, programOf_program hkind]
      cases entriesFault? false (before ++ after) with
      | some fault => rfl
      | none =>
          simp only [toOption_bind]
          rw [toOption_single?_congr before after h]
  | item after => rw [programOf_items, programOf_items, toOption_bind, toOption_bind, h]

/-- Values that are read alike at a spot make programs that are read alike. -/
theorem toOption_congr_of_opens {inner : Place} (read : Json → Except ReadError Program)
    (hopens : ∀ (value : Json) (program : Program), value.isNull = false →
      read value = .ok program → Opens inner value program read)
    {a b : Json} (ha : a.isNull = false) (hb : b.isNull = false)
    (h : (a.readAt inner).toOption = (b.readAt inner).toOption) :
    (read a).toOption = (read b).toOption := by
  have hsame {a b : Json} (ha : a.isNull = false) (hb : b.isNull = false)
      (h : (a.readAt inner).toOption = (b.readAt inner).toOption) (program : Program)
      (hread : read a = .ok program) : read b = .ok program := by
    obtain ⟨f, x, -, hx, rfl, hothers⟩ := hopens a program ha hread
    rw [hx] at h
    rw [hothers b hb, toOption_eq_some_iff.mp h.symm]
    rfl
  exact toOption_eq_of_iff fun program => ⟨hsame ha hb h program, hsame hb ha h.symm program⟩

theorem ProgramAlike.toOption_readProgram {value value' : Json} (h : ProgramAlike value value') :
    (readProgram value).toOption = (readProgram value').toOption := by
  cases h with
  | root key value hother => rw [readProgram_append hother]
  | @node inner context entries entries' spot hsame =>
      exact toOption_congr_of_opens (fun value => readProgram (context value))
        (fun value program hvalue hread => spot.opens hvalue hread) rfl rfl hsame.toOption_readAt

theorem Alike.toOption_programOf {value value' : Json} (h : Alike value value') :
    (programOf value).toOption = (programOf value').toOption := by
  cases h with
  | root key value hother => rw [programOf_append hother]
  | program spot hsame => exact spot.toOption_programOf_congr hsame.toOption_readProgram
  | @node inner context entries entries' spot hsame =>
      exact toOption_congr_of_opens (fun value => programOf (context value))
        (fun value program hvalue hread => spot.opens hvalue hread) rfl rfl hsame.toOption_readAt

end Document

/-- A value in which one node has got an entry under a key that it is not read by, at any
depth, is read as before, or still not at all. So is one in which a node of a kind that is
not modelled has been changed in any way that keeps its kind, and for a statement its place
in the source and its comments. This holds for every node, for a program and for a whole
document. -/
theorem Program.parse_alike :
    (∀ place value value', Json.AlikeAt place value value' →
      (value.readAt place).toOption = (value'.readAt place).toOption) ∧
    (∀ value value', Document.ProgramAlike value value' →
      (Document.readProgram value).toOption = (Document.readProgram value').toOption) ∧
    (∀ value value', Document.Alike value value' →
      (Document.programOf value).toOption = (Document.programOf value').toOption ∧
      ∀ text text', Json.parse text = .ok value → Json.parse text' = .ok value' →
        (Program.parse text).toOption = (Program.parse text').toOption) := by
  refine ⟨?_, fun _ _ h => h.toOption_readProgram, fun value value' h => ?_⟩
  · rintro place _ _ ⟨spot, hsame⟩
    exact spot.toOption_readAt_congr rfl rfl hsame.toOption_readAt
  · have hread := h.toOption_programOf
    refine ⟨hread, fun text text' htext htext' => ?_⟩
    rw [parse_of_json htext, parse_of_json htext', toOption_mapError, toOption_mapError, hread]

/-- A statement that is modelled with one more entry, and one that is not modelled with
other entries altogether. -/
theorem Program.parse_alike_export_enum :
    (Program.parse (statementText "\x7b\"type\":\"ExportDefaultDeclaration\"\x7d")).toOption =
      (Program.parse (statementText
        "\x7b\"type\":\"ExportDefaultDeclaration\",\"exportKind\":1\x7d")).toOption ∧
    (Program.parse (statementText
        "\x7b\"type\":\"EnumDeclaration\",\"start\":9,\"id\":true\x7d")).toOption =
      (Program.parse (statementText
        "\x7b\"body\":[],\"start\":9,\"type\":\"EnumDeclaration\"\x7d")).toOption := by
  have spot : Document.Spot .statement statementValue :=
    .body [("type", .string "Program")] [] rfl (.item [] [] .here)
  have hexport : Json.Alike .statement [("type", .string "ExportDefaultDeclaration")]
      [("type", .string "ExportDefaultDeclaration"), ("exportKind", .number (.whole 1))] :=
    .entry [_] [] "exportKind" _ rfl (by decide)
  have henum : Json.Alike .statement
      [("type", .string "EnumDeclaration"), ("start", .number (.whole 9)), ("id", .bool true)]
      [("body", .array []), ("start", .number (.whole 9)),
        ("type", .string "EnumDeclaration")] := by
    refine .unmodelled (by decide) ?_ rfl rfl fun _ key hkey => ?_
    · decide
    · simp only [List.mem_cons, List.not_mem_nil, or_false] at hkey
      rcases hkey with rfl | rfl | rfl <;> rfl
  exact ⟨(parse_alike.2.2 _ _ (.node spot hexport)).2 _ _ (by rfl) (by rfl),
    (parse_alike.2.2 _ _ (.node spot henum)).2 _ _ (by rfl) (by rfl)⟩

end Ambient
