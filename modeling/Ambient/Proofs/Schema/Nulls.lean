import Ambient.Proofs.Json.Nulls
import Ambient.Proofs.Schema.OtherKeys

namespace Ambient

/-!
# Documents without nulls

A field that may be left out may also be null, with one exception: the kind of a method is
read as any value is. So the null entries of a document can be taken out of it. What it was
read as it is still read as; and it was readable before if it is now, unless a method had
null for its kind.

The name of the kind of a comment or of a method may be given as an object with that name
as its only key. There a null entry stands for something.
-/

namespace Mode

variable {α : Type}

/-- Whether a field that may be left out may not be null. -/
def isDefaulted : Mode α → Bool
  | .defaulted _ _ => true
  | _ => false

theorem toOption_readAt_null (place : Place) : (Json.null.readAt place).toOption = none := by
  cases place <;> rfl

/-- Null is read as nothing at all is. -/
theorem given?_null_agree {both : Bool} (mode : Mode α)
    (h : both = true → mode.isDefaulted = false) :
    Agree both (mode.given? (some Json.null.asPart)) (mode.given? none) := by
  cases mode with
  | required place => exact .of_eq (toOption_readAt_null place)
  | optional place => exact .of_eq rfl
  | nullable place fallback => exact .of_eq rfl
  | defaulted place fallback =>
      exact .of_none (toOption_readAt_null place) fun hboth => Bool.noConfusion (h hboth)

end Mode

/-- The keys of the fields that may be left out but may not be null. -/
def Record.defaultedKeys : {α : Type} → Record α → List String
  | _, .build _ => []
  | _, .field init key mode => init.defaultedKeys ++ if mode.isDefaulted then [key] else []
  | _, .flatten init inner => init.defaultedKeys ++ inner.defaultedKeys

theorem Record.HasField.mem_defaultedKeys {α β : Type} {key : String} {mode : Mode β}
    {fields : Record α} (h : fields.HasField key mode) (hmode : mode.isDefaulted = true) :
    key ∈ fields.defaultedKeys := by
  induction h with
  | last => simp [defaultedKeys, hmode]
  | field _ ih => simp [defaultedKeys, ih]
  | flatten _ ih => simp [defaultedKeys, ih]
  | within _ ih => simp [defaultedKeys, ih]

namespace Shape

variable {α : Type}

theorem toOption_read_object_of_none {shape : Shape α} {entries : List (String × Part)}
    (hname : ∀ names other kept, shape ≠ .variant names other kept)
    (h : shape.record? (tag? entries) = none) : (shape.read (.object entries)).toOption = none := by
  cases shape with
  | record name kept fields => cases h
  | tagged cases other =>
      rw [read, Option.map_eq_none_iff.mp h]
      rfl
  | variant names other kept => exact absurd rfl (hname names other kept)
  | _ => rfl

theorem toOption_readArray (name : String) (kept : Bool) (fields : Record α) (items : List Part) :
    (readArray name kept fields items).toOption =
      if items.length ≤ fields.size then fields.placed? fun i => items[i]? else none := by
  rw [readArray, toOption_bind, toOption_mapError, Record.toOption_readItems]
  by_cases hcount : items.length ≤ fields.size
  · simp only [if_neg (Nat.not_lt.mpr hcount), if_pos hcount]
    cases fields.placed? fun i => items[i]? <;> rfl
  · simp only [if_pos (Nat.lt_of_not_le hcount), if_neg hcount]
    cases fields.placed? fun i => items[i]? <;> rfl

theorem readList_agree {both : Bool} {place : Place} {f : Json → Json} {items : List Json}
    (h : ∀ item ∈ items, Agree both (item.readAt place).toOption ((f item).readAt place).toOption) :
    Agree both (readList place (items.map Json.asPart)).toOption
      (readList place ((items.map f).map Json.asPart)).toOption := by
  induction items with
  | nil => exact .of_eq rfl
  | cons item items ih =>
      simp only [List.map_cons, readList, toOption_bind]
      refine (h item List.mem_cons_self).bind fun first _ _ => ?_
      refine (ih fun other hother => h other (List.mem_cons_of_mem _ hother)).bind
        fun others _ _ => ?_
      exact .of_eq rfl

end Shape

namespace Place

/-- Whether a name is read here that may be given as an object. -/
def isName : Place → Bool
  | .commentKind _ => true
  | .methodKind => true
  | _ => false

/-- The kind of a method is the only field that may be left out but may not be null. -/
theorem eq_of_mem_defaultedKeys {place : Place} {kind : Option String}
    {fields : Record place.Result} (hrecord : place.shape.record? kind = some fields) {key : String}
    (hkey : key ∈ fields.defaultedKeys) :
    place = .classMember ∧ kind = some "ClassMethod" ∧ key = "kind" := by
  have hnil (hnone : fields.defaultedKeys = []) :
      place = .classMember ∧ kind = some "ClassMethod" ∧ key = "kind" := by
    rw [hnone] at hkey
    cases hkey
  have htagged {cases : List (String × Record place.Result)} {other : String → Record place.Result}
      (hshape : place.shape = .tagged cases other)
      (hcases : ∀ case ∈ cases, case.2.defaultedKeys = [])
      (hother : ∀ kind, (other kind).defaultedKeys = []) : fields.defaultedKeys = [] := by
    rw [hshape] at hrecord
    obtain ⟨kind, rfl, rfl⟩ := Option.map_eq_some_iff.mp hrecord
    cases hcase : Json.get? kind cases with
    | none => exact hother kind
    | some found => exact hcases _ (Json.mem_of_get? hcase)
  cases place with
  | text | flag | offset | double | list | commentKind | methodKind => cases hrecord
  | propertyKey | typeRef | type | objectMember | pattern | patternMember | importSpecifier
  | exportSpecifier | superclass | statement =>
      exact hnil (htagged rfl (by decide) fun _ => rfl)
  | classMember =>
      obtain ⟨kind, rfl, rfl⟩ := Option.map_eq_some_iff.mp hrecord
      cases hcase : Json.get? kind [("ClassMethod", Record.ofClassMethod),
          ("ClassProperty", Record.ofClassProperty)] with
      | none =>
          rw [hcase] at hkey
          cases hkey
      | some found =>
          have hmem := Json.mem_of_get? hcase
          simp only [List.mem_cons, Prod.mk.injEq, List.not_mem_nil, or_false] at hmem
          rw [hcase] at hkey
          obtain ⟨rfl, rfl⟩ | ⟨rfl, rfl⟩ := hmem
          · exact ⟨rfl, rfl, List.mem_singleton.mp hkey⟩
          · cases hkey
  | comment kept =>
      cases hrecord
      cases kept <;> exact hnil rfl
  | _ =>
      cases hrecord
      exact hnil rfl

end Place

namespace Json

/-- A value that is read at a place while another one is read at its own place. -/
inductive Reads (inner : Place) (found : Json) : Place → Json → Prop
  | here : Reads inner found inner found
  | item {place : Place} {items : List Json} {value : Json} (mem : value ∈ items)
      (h : Reads inner found place value) : Reads inner found (.list place) (.array items)
  | entry {place : Place} {entries : List (String × Json)} {fields : Record place.Result}
      {β : Type} {key : String} {mode : Mode β} {value : Json}
      (record_eq : place.shape.record? (kind? entries) = some fields)
      (field : fields.HasField key mode) (value_eq : last? key entries = some value)
      (h : Reads inner found mode.place value) : Reads inner found place (.object entries)
  /-- In the array that a record may be given as. -/
  | element {place : Place} {items : List Json} {fields : Record place.Result} {β : Type}
      {mode : Mode β} {i : Nat} {value : Json}
      (record_eq : place.shape.record? none = some fields) (field : fields.HasItem mode i)
      (value_eq : items[i]? = some value) (h : Reads inner found mode.place value) :
      Reads inner found place (.array items)

/-- Null entries stand for nothing among the values that are read at places: no name is
given as an object with one in it and, with `both`, no method has null for its kind. -/
structure NullsMeanAbsent (both : Bool) (reads : Place → Json → Prop) : Prop where
  names : ∀ place entries, place.isName = true → reads place (.object entries) →
    entriesWithoutNulls entries = entries
  kinds : both = true → ∀ entries, reads .classMember (.object entries) →
    kind? entries = some "ClassMethod" → last? "kind" entries ≠ some .null

theorem NullsMeanAbsent.mono {both : Bool} {reads reads' : Place → Json → Prop}
    (h : NullsMeanAbsent both reads)
    (hreads : ∀ place found, reads' place found → reads place found) :
    NullsMeanAbsent both reads' where
  names place entries hname hfound := h.names place entries hname (hreads _ _ hfound)
  kinds hboth entries hfound := h.kinds hboth entries (hreads _ _ hfound)

theorem toOption_readAt_object {place : Place} {entries : List (String × Json)}
    {fields : Record place.Result} (h : place.shape.record? (kind? entries) = some fields) :
    ((Json.object entries).readAt place).toOption =
      fields.given? fun key => (last? key entries).map asPart := by
  rw [← tag?_distinct] at h
  change (place.shape.read (.object (distinct (entryParts entries)))).toOption = _
  rw [Shape.read_object h, toOption_mapError, Record.toOption_readEntries]
  simp only [get?_distinct, entryParts_eq_map, last?_map]

/-- An object is read as a record or, where a name is read, as a name. -/
theorem toOption_readAt_object_of_none {place : Place} {entries : List (String × Json)}
    (hname : place.isName = false) (h : place.shape.record? (kind? entries) = none) :
    ((Json.object entries).readAt place).toOption = none := by
  rw [← tag?_distinct] at h
  refine Shape.toOption_read_object_of_none ?_ h
  cases place with
  | commentKind | methodKind => cases hname
  | _ => exact fun _ _ _ hshape => nomatch hshape

theorem toOption_readAt_array {place : Place} {fields : Record place.Result}
    (h : place.shape.record? none = some fields) (items : List Json) :
    ((Json.array items).readAt place).toOption =
      if fields.isPlain ∧ items.length ≤ fields.size then
        fields.placed? fun i => items[i]?.map asPart
      else none := by
  obtain ⟨name, kept, hshape⟩ := Shape.exists_record_of_record?_none h
  change (place.shape.read (.array (parts items))).toOption = _
  rw [hshape, parts_eq_map, Shape.read]
  cases hplain : fields.isPlain with
  | false => simp [Except.toOption]
  | true => simp [Shape.toOption_readArray]

/-- An array is read as a list or as a record. -/
theorem toOption_readAt_array_of_none {place : Place} (hlist : ∀ item, place ≠ .list item)
    (h : place.shape.record? none = none) (items : List Json) :
    ((Json.array items).readAt place).toOption = none := by
  cases place with
  | list item => exact absurd rfl (hlist item)
  | text | flag | offset | double | commentKind | methodKind | propertyKey | typeRef | type
  | objectMember | pattern | patternMember | importSpecifier | exportSpecifier | superclass
  | classMember | statement => rfl
  | _ => cases h

theorem kind?_entriesWithoutNulls {entries : List (String × Json)}
    (h : (entries.map Prod.fst).Nodup) : kind? (entriesWithoutNulls entries) = kind? entries := by
  rw [kind?, last?_entriesWithoutNulls _ h, kind?]
  cases last? "type" entries with
  | none => rfl
  | some value => cases value <;> rfl

/-- What is left of the value under a key gives a field the value that it had. -/
theorem given?_left?_agree {both : Bool} {α : Type} {mode : Mode α} {found : Option Json}
    (hnull : both = true → mode.isDefaulted = true → found ≠ some .null)
    (hread : ∀ value, found = some value →
      Agree both (value.readAt mode.place).toOption
        (value.withoutNulls.readAt mode.place).toOption) :
    Agree both (mode.given? (found.map asPart)) (mode.given? ((left? found).map asPart)) := by
  cases found with
  | none => exact .of_eq rfl
  | some value =>
      cases hvalue : value.isNull with
      | true =>
          obtain rfl := eq_null_of_isNull hvalue
          exact mode.given?_null_agree fun hboth =>
            Bool.eq_false_iff.mpr fun hmode => hnull hboth hmode rfl
      | false =>
          rw [left?, if_neg (by simp [hvalue])]
          exact mode.given?_agree (isNull_withoutNulls value) (hread value rfl)

/-- Every value without its nulls is read as it was; with `both` it is also read only if it
could be before. -/
theorem readAt_withoutNulls {both : Bool} (value : Json) : ∀ place, value.hasDistinctKeys = true →
    NullsMeanAbsent both (fun inner found => Reads inner found place value) →
    Agree both (value.readAt place).toOption (value.withoutNulls.readAt place).toOption := by
  induction value using Json.induction with
  | null | bool | number | string => exact fun place _ _ => .of_eq rfl
  | array items ih =>
      intro place hdistinct hnulls
      have hitems := distinctKeys_of_array hdistinct
      rw [withoutNulls, allWithoutNulls_eq_map]
      cases hrecord : place.shape.record? none with
      | none =>
          by_cases hlist : ∃ item, place = .list item
          · obtain ⟨item, rfl⟩ := hlist
            change Agree both (Shape.readList item (parts items)).toOption
              (Shape.readList item (parts (items.map withoutNulls))).toOption
            rw [parts_eq_map, parts_eq_map]
            refine Shape.readList_agree fun value hvalue => ?_
            exact ih value hvalue item (hitems value hvalue)
              (hnulls.mono fun _ _ hfound => .item hvalue hfound)
          · have hlist : ∀ item, place ≠ .list item := fun item h => hlist ⟨item, h⟩
            rw [toOption_readAt_array_of_none hlist hrecord,
              toOption_readAt_array_of_none hlist hrecord]
            exact .of_eq rfl
      | some fields =>
          rw [toOption_readAt_array hrecord, toOption_readAt_array hrecord, List.length_map]
          split
          next =>
              refine Record.placed?_agree fun i β mode hitem => ?_
              rw [List.getElem?_map]
              cases hvalue : items[i]? with
              | none => exact .of_eq rfl
              | some value =>
                  have hmem := List.mem_of_getElem? hvalue
                  exact mode.given?_agree (isNull_withoutNulls value)
                    (ih value hmem mode.place (hitems value hmem)
                      (hnulls.mono fun _ _ hfound => .element hrecord hitem hvalue hfound))
          next => exact .of_eq rfl
  | object entries ih =>
      intro place hdistinct hnulls
      obtain ⟨hkeys, hvalues⟩ := distinctKeys_of_object hdistinct
      have hkind := kind?_entriesWithoutNulls hkeys
      rw [withoutNulls]
      cases hrecord : place.shape.record? (kind? entries) with
      | none =>
          cases hname : place.isName with
          | true =>
              rw [hnulls.names place entries hname .here]
              exact .of_eq rfl
          | false =>
              exact .of_eq ((toOption_readAt_object_of_none hname hrecord).trans
                (toOption_readAt_object_of_none hname (hkind ▸ hrecord)).symm)
      | some fields =>
          rw [toOption_readAt_object hrecord, toOption_readAt_object (hkind ▸ hrecord)]
          refine Record.given?_agree fun β key mode hfield => ?_
          rw [last?_entriesWithoutNulls key hkeys]
          refine given?_left?_agree (fun hboth hmode => ?_) fun value hlast => ?_
          · obtain ⟨rfl, hmethod, rfl⟩ := Place.eq_of_mem_defaultedKeys hrecord
              (hfield.mem_defaultedKeys hmode)
            exact hnulls.kinds hboth entries .here hmethod
          · have hmem : (key, value) ∈ entries := List.mem_reverse.mp (mem_of_get? hlast)
            exact ih _ hmem mode.place (hvalues _ hmem)
              (hnulls.mono fun _ _ hfound => .entry hrecord hfield hlast hfound)

end Json

namespace Document

/-- A value that is read at a place while a program is. -/
inductive ProgramReads (inner : Place) (found : Json) : Json → Prop
  | body {entries : List (String × Json)} {value : Json}
      (value_eq : Json.get? "body" entries = some value)
      (h : Json.Reads inner found (.list .statement) value) :
      ProgramReads inner found (.object entries)
  | item {value : Json} {rest : List Json} (h : Json.Reads inner found (.list .statement) value) :
      ProgramReads inner found (.array (value :: rest))

/-- A value that is read at a place while a document is. -/
inductive Reads (inner : Place) (found : Json) : Json → Prop
  | program {entries : List (String × Json)}
      (kind_eq : Json.get? "type" entries = some (.string "Program"))
      (h : ProgramReads inner found (.object entries)) : Reads inner found (.object entries)
  | programItems {rest : List Json} (h : ProgramReads inner found (.array rest)) :
      Reads inner found (.array (.string "Program" :: rest))
  | file {entries : List (String × Json)} {program : Json}
      (kind_eq : Json.get? "type" entries = some (.string "File"))
      (value_eq : Json.get? "program" entries = some program)
      (h : ProgramReads inner found program) : Reads inner found (.object entries)
  | fileItem {program : Json} {rest : List Json} (h : ProgramReads inner found program) :
      Reads inner found (.array (.string "File" :: program :: rest))

theorem toOption_single? {α : Type} {key : String} {read : Json → Except ReadError α}
    {entries : List (String × Json)} (h : (entries.map Prod.fst).Nodup) :
    (single? key read entries).toOption =
      match Json.get? key entries with
      | none => some none
      | some value => (read value).toOption.map some := by
  induction entries with
  | nil => rfl
  | cons entry entries ih =>
      rw [List.map_cons, List.nodup_cons] at h
      rw [single?, Json.get?]
      by_cases hkey : entry.1 = key
      · have hrest : Json.get? key entries = none := Json.get?_of_not_mem (hkey ▸ h.1)
        rw [if_neg (not_not_intro hkey), if_pos hkey, hrest]
        dsimp only
        cases read entry.2 <;> rfl
      · rw [if_pos hkey, if_neg hkey, ih h.2]

theorem toOption_readProgram_object {entries : List (String × Json)}
    (h : (entries.map Prod.fst).Nodup) :
    (readProgram (.object entries)).toOption =
      ((Mode.nullable (.list .statement) []).given?
        ((Json.get? "body" entries).map Json.asPart)).map Program.mk := by
  rw [readProgram_object, toOption_map, toOption_single? h]
  cases Json.get? "body" entries with
  | none => rfl
  | some value =>
      change Option.map _ (Option.map some (readBody value).toOption) =
        (readBody value).toOption.map Program.mk
      cases readBody value <;> rfl

theorem readProgram_withoutNulls {both : Bool} {value : Json}
    (hdistinct : value.hasDistinctKeys = true)
    (hnulls : Json.NullsMeanAbsent both fun inner found => ProgramReads inner found value) :
    Agree both (readProgram value).toOption (readProgram value.withoutNulls).toOption := by
  cases value with
  | null | bool | number | string => exact .of_eq rfl
  | array items =>
      cases items with
      | nil => exact .of_eq rfl
      | cons first rest =>
          have hfirst := Json.distinctKeys_of_array hdistinct first List.mem_cons_self
          have hbody : Agree both (readBody first).toOption
              (readBody first.withoutNulls).toOption :=
            Mode.given?_agree (.nullable (.list .statement) []) (Json.isNull_withoutNulls first)
              (Json.readAt_withoutNulls first (.list .statement) hfirst
                (hnulls.mono fun _ _ hfound => .item hfound))
          rw [Json.withoutNulls, Json.allWithoutNulls, readProgram, readProgram, toOption_bind,
            toOption_bind]
          refine hbody.bind fun body _ _ => .of_eq ?_
          cases rest <;> rfl
  | object entries =>
      obtain ⟨hkeys, hvalues⟩ := Json.distinctKeys_of_object hdistinct
      have hkeys' := Json.nodup_entriesWithoutNulls hkeys
      rw [Json.withoutNulls, toOption_readProgram_object hkeys, toOption_readProgram_object hkeys',
        Json.get?_entriesWithoutNulls _ hkeys]
      refine (Json.given?_left?_agree (fun _ hmode => by cases hmode)
        fun body hbody => ?_).map _
      exact Json.readAt_withoutNulls body (.list .statement) (hvalues _ (Json.mem_of_get? hbody))
        (hnulls.mono fun _ _ hfound => .body hbody hfound)

theorem toOption_kindOf_withoutNulls (value : Json) :
    (kindOf value.withoutNulls).toOption = (kindOf value).toOption := by
  cases value <;> rfl

theorem entriesFault?_of_not_mem {entries : List (String × Json)}
    (h : "type" ∉ entries.map Prod.fst) (seen : Bool) : entriesFault? seen entries = none := by
  induction entries with
  | nil => rfl
  | cons entry entries ih =>
      simp only [List.map_cons, List.mem_cons, not_or] at h
      rw [entriesFault?, if_pos (Ne.symm h.1), ih h.2]

theorem entriesFault?_of_nodup {entries : List (String × Json)}
    (h : (entries.map Prod.fst).Nodup) :
    entriesFault? false entries = (Json.get? "type" entries).bind kindFault? := by
  induction entries with
  | nil => rfl
  | cons entry entries ih =>
      rw [List.map_cons, List.nodup_cons] at h
      rw [entriesFault?, Json.get?]
      by_cases hkey : entry.1 = "type"
      · rw [if_neg (not_not_intro hkey), if_pos hkey,
          entriesFault?_of_not_mem (hkey ▸ h.1), Option.or_none]
        rfl
      · rw [if_pos hkey, if_neg hkey, ih h.2]

/-- The program in a document of a kind. -/
def readKind? (entries : List (String × Json)) : Kind → Option Program
  | .file => (Json.get? "program" entries).bind fun program => (readProgram program).toOption
  | .program => (readProgram (.object entries)).toOption

theorem toOption_programOf_object {entries : List (String × Json)}
    (h : (entries.map Prod.fst).Nodup) :
    (programOf (.object entries)).toOption =
      ((Json.get? "type" entries).bind fun kind => (kindOf kind).toOption).bind
        (readKind? entries) := by
  rw [programOf_object, entriesFault?_of_nodup h]
  cases hfound : Json.get? "type" entries with
  | none => simp [read, hfound, Except.toOption, throw, throwThe, MonadExceptOf.throw]
  | some found =>
      cases hkind : kindOf found with
      | error e => simp [kindFault?, hkind, Except.toOption]
      | ok kind =>
          obtain ⟨rfl, rfl⟩ | ⟨rfl, rfl⟩ := kindOf_eq_ok hkind
          · simp only [Option.bind_some, kindFault?, hkind]
            rw [read_of_file hfound, toOption_bind, toOption_single? h]
            change _ = (Json.get? "program" entries).bind fun program =>
              (readProgram program).toOption
            cases Json.get? "program" entries with
            | none => rfl
            | some program => 
                dsimp only
                rw [Option.bind_some]
                cases readProgram program <;> rfl
          · simp only [Option.bind_some, kindFault?, hkind]
            rw [read_of_program hfound]
            rfl

theorem toOption_programOf_array (kind : Json) (rest : List Json) :
    (programOf (.array (kind :: rest))).toOption =
      (kindOf kind).toOption.bind fun
        | .file => (readFileItems rest).toOption
        | .program => (readProgram (.array rest)).toOption := by
  cases hkind : kindOf kind with
  | error e => simp [programOf, outlineFault?, kindFault?, hkind, Except.toOption]
  | ok found =>
      simp only [programOf, outlineFault?, kindFault?, hkind, read]
      cases found <;> rfl

theorem toOption_kind?_withoutNulls {entries : List (String × Json)}
    (h : (entries.map Prod.fst).Nodup) :
    ((Json.get? "type" (Json.entriesWithoutNulls entries)).bind fun kind =>
        (kindOf kind).toOption) =
      (Json.get? "type" entries).bind fun kind => (kindOf kind).toOption := by
  rw [Json.get?_entriesWithoutNulls _ h]
  cases Json.get? "type" entries with
  | none => rfl
  | some value => cases value <;> rfl

theorem programOf_withoutNulls {both : Bool} {value : Json}
    (hdistinct : value.hasDistinctKeys = true)
    (hnulls : Json.NullsMeanAbsent both fun inner found => Reads inner found value) :
    Agree both (programOf value).toOption (programOf value.withoutNulls).toOption := by
  cases value with
  | null | bool | number | string => exact .of_eq rfl
  | array items =>
      cases items with
      | nil => exact .of_eq rfl
      | cons kind rest =>
          have hrest : (Json.array rest).hasDistinctKeys = true :=
            (Bool.and_eq_true_iff.mp hdistinct).2
          rw [Json.withoutNulls, Json.allWithoutNulls, toOption_programOf_array,
            toOption_programOf_array, toOption_kindOf_withoutNulls]
          refine Agree.bind (.of_eq rfl) fun found hfound _ => ?_
          obtain ⟨rfl, rfl⟩ | ⟨rfl, rfl⟩ := kindOf_eq_ok (toOption_eq_some_iff.mp hfound)
          · cases rest with
            | nil => exact .of_eq rfl
            | cons program rest =>
                have hprogram := Json.distinctKeys_of_array hrest program List.mem_cons_self
                rw [Json.allWithoutNulls]
                dsimp only
                rw [readFileItems, readFileItems, toOption_bind, toOption_bind]
                refine (readProgram_withoutNulls hprogram
                  (hnulls.mono fun _ _ hread => .fileItem hread)).bind fun _ _ _ => .of_eq ?_
                cases rest <;> rfl
          · exact readProgram_withoutNulls hrest (hnulls.mono fun _ _ hread => .programItems hread)
  | object entries =>
      obtain ⟨hkeys, hvalues⟩ := Json.distinctKeys_of_object hdistinct
      rw [Json.withoutNulls, toOption_programOf_object hkeys,
        toOption_programOf_object (Json.nodup_entriesWithoutNulls hkeys),
        toOption_kind?_withoutNulls hkeys]
      refine Agree.bind (.of_eq rfl) fun kind hkind _ => ?_
      obtain ⟨found, hfound, hkindOf⟩ := Option.bind_eq_some_iff.mp hkind
      obtain ⟨rfl, rfl⟩ | ⟨rfl, rfl⟩ := kindOf_eq_ok (toOption_eq_some_iff.mp hkindOf)
      · rw [readKind?, readKind?, Json.get?_entriesWithoutNulls _ hkeys]
        cases hprogram : Json.get? "program" entries with
        | none => exact .of_eq rfl
        | some program =>
            cases hnull : program.isNull with
            | true =>
                obtain rfl := Json.eq_null_of_isNull hnull
                exact .of_eq rfl
            | false =>
                rw [Json.left?, if_neg (by simp [hnull])]
                exact readProgram_withoutNulls (hvalues _ (Json.mem_of_get? hprogram))
                  (hnulls.mono fun _ _ hread => .file hfound hprogram hread)
      · exact readProgram_withoutNulls hdistinct
          (hnulls.mono fun _ _ hread => .program hfound hread)

end Document

/-- If a document can be read, it is read as the same program without its null entries. If
no method in it has null for its kind, it can also be read only if it can be without them.
No object may have two entries with one key, and no name that is given as an object may
have a null entry in it. -/
theorem Program.parse_withoutNulls {value : Json} (hdistinct : value.hasDistinctKeys = true)
    (hnames : ∀ place entries, place.isName = true → Document.Reads place (.object entries) value →
      Json.entriesWithoutNulls entries = entries) {text text' : String}
    (htext : Json.parse text = .ok value) (htext' : Json.parse text' = .ok value.withoutNulls) :
    (∀ program, Program.parse text = .ok program → Program.parse text' = .ok program) ∧
    ((∀ entries, Document.Reads .classMember (.object entries) value →
        Json.kind? entries = some "ClassMethod" → Json.last? "kind" entries ≠ some .null) →
      (Program.parse text).toOption = (Program.parse text').toOption) := by
  have hparse {both : Bool} (hkinds : both = true → ∀ entries,
      Document.Reads .classMember (.object entries) value →
        Json.kind? entries = some "ClassMethod" → Json.last? "kind" entries ≠ some .null) :
      Agree both (Program.parse text).toOption (Program.parse text').toOption := by
    rw [parse_of_json htext, parse_of_json htext', toOption_mapError, toOption_mapError]
    exact Document.programOf_withoutNulls hdistinct ⟨hnames, hkinds⟩
  constructor
  · intro program hprogram
    have hagree : Agree false (Program.parse text).toOption (Program.parse text').toOption :=
      hparse fun hboth => Bool.noConfusion hboth
    exact toOption_eq_some_iff.mp (hagree.forward program (toOption_eq_some_iff.mpr hprogram))
  · exact fun hkinds => (hparse fun _ => hkinds).eq

/-- A program of one statement with a null entry. -/
def exportNull : Json :=
  statementValue (.object [("type", .string "ExportDefaultDeclaration"), ("declaration", .null)])

/-- A statement with a null entry, and without it. -/
theorem Program.parse_withoutNulls_export :
    (Program.parse (statementText
        "\x7b\"type\":\"ExportDefaultDeclaration\",\"declaration\":null\x7d")).toOption =
      (Program.parse (statementText "\x7b\"type\":\"ExportDefaultDeclaration\"\x7d")).toOption := by
  have hreads {place : Place} {entries : List (String × Json)} (h : Document.Reads place
      (.object entries) exportNull) : place = .statement := by
    obtain ⟨-, ⟨hbody, hstatements⟩⟩ | _ | ⟨hkind, -, -⟩ := h
    · cases hbody
      cases hstatements with
      | item hmem hstatement =>
          cases List.mem_singleton.mp hmem
          cases hstatement with
          | here => rfl
          | @entry _ _ _ _ _ mode _ hrecord hfield hlast hvalue =>
              generalize mode.place = part at hvalue
              -- Nothing but a text and null stands in the statement.
              have hmem := Json.mem_of_get? hlast
              simp only [List.reverse_cons, List.reverse_nil, List.nil_append, List.cons_append,
                List.mem_cons, Prod.mk.injEq, List.not_mem_nil, or_false] at hmem
              obtain ⟨-, rfl⟩ | ⟨-, rfl⟩ := hmem <;> cases hvalue
      | element hrecord => cases hrecord
    · exact absurd (Json.string.inj (Option.some.inj hkind)) (by decide)
  have hnames (place : Place) (entries : List (String × Json)) (hname : place.isName = true)
      (h : Document.Reads place (.object entries) exportNull) :
      Json.entriesWithoutNulls entries = entries := by
    cases hreads h
    cases hname
  have hkinds (entries : List (String × Json))
      (h : Document.Reads .classMember (.object entries) exportNull)
      (_ : Json.kind? entries = some "ClassMethod") : Json.last? "kind" entries ≠ some .null := by
    cases hreads h
  exact (Program.parse_withoutNulls rfl hnames (by rfl) (by rfl)).2 hkinds

/-- A program of one statement that has a comment with a type. -/
def commentText (type : String) : String :=
  statementText ("\x7b\"type\":\"EmptyStatement\",\"leadingComments\":[\x7b\"type\":" ++ type ++
    ",\"value\":\"a\"\x7d]\x7d")

def commentValue (type : Json) : Json :=
  statementValue (.object [("type", .string "EmptyStatement"),
    ("leadingComments", .array [.object [("type", type), ("value", .string "a")]])])

/-- A program of one statement with two entries for its start. -/
def twiceValue : Json :=
  statementValue (.object [("type", .string "EmptyStatement"), ("start", .number (.whole 3)),
    ("start", .null)])

set_option maxRecDepth 1000 in
/-- The type of a comment may be given as an object with a null entry, which says more than
no entry. And where a key is repeated, a null entry makes an earlier one not count. -/
theorem Program.null_means_something :
    (Json.parse (commentText "\x7b\"CommentLine\":null\x7d") =
        .ok (commentValue (.object [("CommentLine", .null)])) ∧
      Json.parse (commentText "\x7b\x7d") =
        .ok (commentValue (.object [("CommentLine", .null)])).withoutNulls ∧
      Program.parse (commentText "\x7b\"CommentLine\":null\x7d") =
        .ok ⟨[.unsupported "EmptyStatement" ⟨0, 0, [⟨.line, "a"⟩]⟩]⟩ ∧
      (Program.parse (commentText "\x7b\x7d")).toOption = none) ∧
    Document.programOf twiceValue = .ok ⟨[.unsupported "EmptyStatement" ⟨0, 0, []⟩]⟩ ∧
      Document.programOf twiceValue.withoutNulls =
        .ok ⟨[.unsupported "EmptyStatement" ⟨3, 0, []⟩]⟩ := by
  have htext : Json.parse (commentText "\x7b\"CommentLine\":null\x7d") =
      .ok (commentValue (.object [("CommentLine", .null)])) := by rfl
  have htext' : Json.parse (commentText "\x7b\x7d") =
      .ok (commentValue (.object [("CommentLine", .null)])).withoutNulls := by rfl
  refine ⟨⟨htext, htext', ?_, ?_⟩, by rfl, by rfl⟩
  · rw [Program.parse_of_json htext]
    rfl
  · rw [Program.parse_of_json htext']
    rfl

end Ambient
