import Ambient.Declaration.Layout
import Ambient.Proofs.Emission.Result
import Ambient.Proofs.Text.Lines

namespace Ambient

/-!
# Destructured parameters line by line

A destructured parameter is written twice, as a pattern and as a type in the shape of that
pattern. Where no type is given, both follow one outline: each line of the one has its
counterpart in the other, as far in, with the same key or the same brace.
-/

/-- The braces around the properties of a pattern. -/
inductive Brace
  | opening
  | closing
  /-- Both of them, around nothing. -/
  | empty
deriving DecidableEq, Repr

def Brace.text : Brace → String
  | .opening => "\x7b"
  | .closing => "\x7d"
  | .empty => "\x7b\x7d"

/-- What a line of a destructured parameter is for. -/
inductive OutlineEntry
  | brace (brace : Brace)
  /-- A property that is not destructured again. -/
  | name (key : String)
  /-- A property that is destructured again, with the brace that its pattern begins with. -/
  | nested (key : String) (brace : Brace)
deriving DecidableEq, Repr

namespace OutlineEntry

def key? : OutlineEntry → Option String
  | .brace _ => none
  | .name key => some key
  | .nested key _ => some key

/-- An entry as it is written, with a mark and with what belongs to a plain property behind its
key. -/
def text (mark plain : String) : OutlineEntry → String
  | .brace b => b.text
  | .name key => key ++ mark ++ plain
  | .nested key b => key ++ mark ++ ": " ++ b.text

/-- The first line of a pattern where it belongs to a property. -/
def under (key : String) : OutlineEntry → OutlineEntry
  | .brace b => .nested key b
  | entry => entry

end OutlineEntry

/-- A line with the number of patterns around it. -/
structure OutlineRow where
  depth : Nat
  entry : OutlineEntry
deriving DecidableEq, Repr

namespace OutlineRow

def deeper (row : OutlineRow) : OutlineRow := { row with depth := row.depth + 1 }

def under (key : String) (row : OutlineRow) : OutlineRow :=
  { row with entry := row.entry.under key }

/-- The key on a line with the number of patterns around it, `depth` being around the outline. -/
def keyAt? (depth : Nat) (row : OutlineRow) : Option (Nat × String) :=
  row.entry.key?.map (depth + row.depth, ·)

theorem keyAt?_deeper (depth : Nat) (row : OutlineRow) :
    row.deeper.keyAt? depth = row.keyAt? (depth + 1) := by
  have hdepth : depth + (row.depth + 1) = depth + 1 + row.depth := by omega
  simp only [keyAt?, deeper, hdepth]

end OutlineRow

mutual

/-- The lines of a destructured parameter. -/
def ObjectParameter.outline : ObjectParameter → List OutlineRow
  | ⟨[], _, _⟩ => [⟨0, .brace .empty⟩]
  | ⟨first :: rest, _, _⟩ =>
    ⟨0, .brace .opening⟩ ::
      ((DestructuredProperty.outlines (first :: rest)).map OutlineRow.deeper ++
        [⟨0, .brace .closing⟩])

def DestructuredProperty.outlines : List DestructuredProperty → List OutlineRow
  | [] => []
  | property :: rest => property.outline ++ DestructuredProperty.outlines rest

def DestructuredProperty.outline : DestructuredProperty → List OutlineRow
  | ⟨key, none, _⟩ => [⟨0, .name key⟩]
  | ⟨key, some nested, _⟩ => nested.outline.modifyHead (·.under key)

end

mutual

/-- The keys of a destructured parameter in their order, each with the number of patterns around
it. -/
def ObjectParameter.keys (depth : Nat) : ObjectParameter → List (Nat × String)
  | ⟨properties, _, _⟩ => DestructuredProperty.keys (depth + 1) properties

def DestructuredProperty.keys (depth : Nat) : List DestructuredProperty → List (Nat × String)
  | [] => []
  | ⟨key, none, _⟩ :: rest => (depth, key) :: DestructuredProperty.keys depth rest
  | ⟨key, some nested, _⟩ :: rest =>
    (depth, key) :: (nested.keys depth ++ DestructuredProperty.keys depth rest)

end

/-- What may stand around the entries of an outline. -/
structure OutlineStyle where
  marks : List String
  /-- What belongs to a property that is not destructured again. -/
  plain : String
  /-- The ends of a line. -/
  stops : List String

namespace OutlineStyle

def pattern : OutlineStyle := ⟨[""], "", ["", ","]⟩

def type : OutlineStyle := ⟨["", "?"], ": " ++ anyText, ["", ";"]⟩

end OutlineStyle

/-- A line that shows a row of an outline. -/
def OutlineRow.Shows (style : OutlineStyle) (step : String) (row : OutlineRow) (line : String) :
    Prop :=
  ∃ mark ∈ style.marks, ∃ stop ∈ style.stops,
    line = Text.repeated step row.depth ++ row.entry.text mark style.plain ++ stop

theorem OutlineRow.Shows.deeper {style : OutlineStyle} {step line : String} {row : OutlineRow}
    (h : row.Shows style step line) : row.deeper.Shows style step (step ++ line) := by
  obtain ⟨mark, hmark, stop, hstop, rfl⟩ := h
  refine ⟨mark, hmark, stop, hstop, ?_⟩
  simp [OutlineRow.deeper, String.append_assoc]

/-- A text whose lines show the rows of an outline one by one. -/
def Follows (style : OutlineStyle) (step : String) (rows : List OutlineRow) (text : String) :
    Prop :=
  List.Forall₂ (OutlineRow.Shows style step) rows (Text.lines text)

namespace Follows

variable {style : OutlineStyle} {step : String}

theorem single {row : OutlineRow} {line : String} (hline : '\n' ∉ line.toList)
    (h : row.Shows style step line) : Follows style step [row] line := by
  rw [Follows, Text.lines_of_inline hline]
  exact .cons h .nil

theorem append {rows others : List OutlineRow} {a b : String} (ha : Follows style step rows a)
    (hb : Follows style step others b) :
    Follows style step (rows ++ others) (a ++ "\n" ++ b) := by
  rw [Follows, Text.lines_append_newline]
  exact List.rel_append ha hb

theorem indent (hstep : '\n' ∉ step.toList) {rows : List OutlineRow} {text : String}
    (h : Follows style step rows text) :
    Follows style step (rows.map OutlineRow.deeper) (Text.indent step text) := by
  rw [Follows, Text.lines_indent hstep, List.forall₂_map_left_iff, List.forall₂_map_right_iff]
  exact h.imp fun _ _ hline => hline.deeper

theorem under (mark : String) {key text : String} (hkey : '\n' ∉ key.toList)
    (hmark : mark ∈ style.marks) (hinline : '\n' ∉ mark.toList) {b : Brace} {rows : List OutlineRow}
    (h : Follows style step (⟨0, .brace b⟩ :: rows) text) :
    Follows style step (⟨0, .nested key b⟩ :: rows) (key ++ mark ++ ": " ++ text) := by
  have hlead : '\n' ∉ (key ++ mark ++ ": ").toList := by simp [hkey, hinline]
  rw [Follows, Text.lines_append_inline hlead]
  obtain ⟨first, others, ⟨_, -, stop, hstop, hfirst⟩, hrest, hlines⟩ :=
    List.forall₂_cons_left_iff.mp h
  rw [hlines, List.modifyHead_cons]
  refine .cons ⟨mark, hmark, stop, hstop, ?_⟩ hrest
  simp [hfirst, OutlineEntry.text, String.append_assoc]

end Follows

theorem ObjectParameter.exists_outline (param : ObjectParameter) :
    ∃ b rows, param.outline = ⟨0, .brace b⟩ :: rows := by
  obtain ⟨properties, type, isOptional⟩ := param
  cases properties with
  | nil => exact ⟨.empty, [], by rw [outline]⟩
  | cons first rest => exact ⟨.opening, _, by rw [outline]⟩

mutual

/-- An outline has the keys of its parameter, in their order and as far in. -/
theorem ObjectParameter.filterMap_keyAt? : ∀ (param : ObjectParameter) (depth : Nat),
    param.outline.filterMap (OutlineRow.keyAt? depth) = param.keys depth
  | ⟨[], _, _⟩, _ => by
      rw [ObjectParameter.outline, ObjectParameter.keys, DestructuredProperty.keys]
      rfl
  | ⟨first :: rest, _, _⟩, depth => by
      have hdeeper : OutlineRow.keyAt? depth ∘ OutlineRow.deeper = OutlineRow.keyAt? (depth + 1) :=
        funext fun row => row.keyAt?_deeper depth
      have hrows := DestructuredProperty.filterMap_keyAt? (first :: rest) (depth + 1)
      rw [ObjectParameter.outline, ObjectParameter.keys, ← hrows, List.filterMap_cons,
        List.filterMap_append, List.filterMap_map, hdeeper]
      exact List.append_nil _

theorem DestructuredProperty.filterMap_keyAt? :
    ∀ (properties : List DestructuredProperty) (depth : Nat),
      (DestructuredProperty.outlines properties).filterMap (OutlineRow.keyAt? depth) =
        DestructuredProperty.keys depth properties
  | [], _ => by rw [DestructuredProperty.outlines, DestructuredProperty.keys, List.filterMap_nil]
  | ⟨key, none, _⟩ :: rest, depth => by
      rw [DestructuredProperty.outlines, DestructuredProperty.outline, DestructuredProperty.keys,
        List.filterMap_append, DestructuredProperty.filterMap_keyAt? rest depth]
      rfl
  | ⟨key, some nested, _⟩ :: rest, depth => by
      have hnested := nested.filterMap_keyAt? depth
      obtain ⟨b, rows, houtline⟩ := nested.exists_outline
      rw [houtline] at hnested
      rw [DestructuredProperty.outlines, DestructuredProperty.outline, DestructuredProperty.keys,
        List.filterMap_append, DestructuredProperty.filterMap_keyAt? rest depth, houtline,
        ← hnested]
      rfl

end

/-- Something holds of a destructured parameter and of all those inside it. -/
inductive ObjectParameter.Everywhere (P : ObjectParameter → Prop) : ObjectParameter → Prop
  | intro {param : ObjectParameter} (here : P param)
      (inside : ∀ property ∈ param.properties, ∀ nested, property.value = some nested →
        ObjectParameter.Everywhere P nested) : ObjectParameter.Everywhere P param

/-- No type is given, and each key stands on one line. -/
structure ObjectParameter.IsBare (param : ObjectParameter) : Prop where
  untyped : param.type = none
  keys_inline : ∀ property ∈ param.properties, '\n' ∉ property.key.toList

/-- Braces on lines of their own around what stands one step further in. -/
theorem Follows.braces {style : OutlineStyle} {step body stop : String} {rows : List OutlineRow}
    (h : Follows style step (rows.map OutlineRow.deeper) body) (hmark : "" ∈ style.marks)
    (hplain : "" ∈ style.stops) (hstop : stop ∈ style.stops) (hinline : '\n' ∉ stop.toList) :
    Follows style step
      (⟨0, .brace .opening⟩ :: (rows.map OutlineRow.deeper ++ [⟨0, .brace .closing⟩]))
      ("\x7b\n" ++ body ++ "\n\x7d" ++ stop) := by
  have hopening : Follows style step [⟨0, .brace .opening⟩] "\x7b" :=
    .single (by decide) ⟨"", hmark, "", hplain, by simp [OutlineEntry.text, Brace.text]⟩
  have hclosing : Follows style step [⟨0, .brace .closing⟩] ("\x7d" ++ stop) :=
    .single (by simp [hinline]) ⟨"", hmark, stop, hstop, by simp [OutlineEntry.text, Brace.text]⟩
  -- Each break belongs to the brace beside it.
  have hlines : "\x7b\n" ++ body ++ "\n\x7d" ++ stop =
      "\x7b" ++ "\n" ++ (body ++ "\n" ++ ("\x7d" ++ stop)) := by
    rw [show "\x7b\n" = "\x7b" ++ "\n" from rfl, show "\n\x7d" = "\n" ++ "\x7d" from rfl]
    simp only [String.append_assoc]
  rw [hlines]
  exact hopening.append (h.append hclosing)

theorem Follows.empty {style : OutlineStyle} {step stop : String} (hmark : "" ∈ style.marks)
    (hstop : stop ∈ style.stops) (hinline : '\n' ∉ stop.toList) :
    Follows style step [⟨0, .brace .empty⟩] ("\x7b\x7d" ++ stop) :=
  .single (by simp [hinline]) ⟨"", hmark, stop, hstop, by simp [OutlineEntry.text, Brace.text]⟩

section

variable {layout : Layout}

theorem DestructuredProperty.follows_pattern {property : DestructuredProperty}
    (hkey : '\n' ∉ property.key.toList)
    (h : ∀ nested, property.value = some nested → ∀ stop ∈ OutlineStyle.pattern.stops,
      Follows .pattern layout.step nested.outline (nested.pattern layout ++ stop))
    {stop : String} (hstop : stop ∈ OutlineStyle.pattern.stops) (hinline : '\n' ∉ stop.toList) :
    Follows .pattern layout.step property.outline (property.pattern layout ++ stop) := by
  obtain ⟨key, value, isOptional⟩ := property
  cases value with
  | none =>
      have hline : '\n' ∉ (key ++ stop).toList := by
        simp only [String.toList_append, List.mem_append, not_or]
        exact ⟨hkey, hinline⟩
      rw [outline, pattern]
      refine .single hline ⟨"", by decide, stop, hstop, ?_⟩
      simp [OutlineEntry.text, OutlineStyle.pattern]
  | some nested =>
      have hnested := h nested rfl stop hstop
      obtain ⟨b, rows, houtline⟩ := nested.exists_outline
      rw [houtline] at hnested
      have hunder := hnested.under "" hkey (by decide) (by decide)
      rw [String.append_empty, ← String.append_assoc] at hunder
      rw [outline, pattern, houtline]
      exact hunder

theorem DestructuredProperty.follows_shapeType {property : DestructuredProperty}
    (hkey : '\n' ∉ property.key.toList)
    (h : ∀ nested, property.value = some nested → ∀ stop ∈ OutlineStyle.type.stops,
      Follows .type layout.step nested.outline (nested.typeText layout ++ stop))
    (inferred : Bool) :
    Follows .type layout.step property.outline (property.shapeType layout inferred) := by
  obtain ⟨key, value, isOptional⟩ := property
  have hmark : ∀ marked, optionalMark marked ∈ OutlineStyle.type.marks ∧
      '\n' ∉ (optionalMark marked).toList := by decide
  obtain ⟨hmem, hinline⟩ := hmark (isOptional || inferred)
  cases value with
  | none =>
      have hline : '\n' ∉ (key ++ optionalMark (isOptional || inferred) ++ ": " ++ anyText ++
          ";").toList := by
        simp only [String.toList_append, List.mem_append, not_or]
        exact ⟨⟨⟨⟨hkey, hinline⟩, by decide⟩, by decide⟩, by decide⟩
      rw [outline, shapeType]
      refine .single hline ⟨_, hmem, ";", by decide, ?_⟩
      simp [OutlineEntry.text, OutlineStyle.type, String.append_assoc]
  | some nested =>
      have hnested := h nested rfl ";" (by decide)
      obtain ⟨b, rows, houtline⟩ := nested.exists_outline
      rw [houtline] at hnested
      have hunder := hnested.under _ hkey hmem hinline
      rw [← String.append_assoc] at hunder
      rw [outline, shapeType, houtline]
      exact hunder

variable (hstep : '\n' ∉ layout.step.toList)
include hstep

theorem DestructuredProperty.follows_patterns {properties : List DestructuredProperty}
    (hne : properties ≠ [])
    (h : ∀ property ∈ properties, ∀ stop ∈ OutlineStyle.pattern.stops,
      Follows .pattern layout.step property.outline (property.pattern layout ++ stop)) :
    Follows .pattern layout.step ((outlines properties).map OutlineRow.deeper)
      (",\n".intercalate (patterns layout properties)) := by
  induction properties with
  | nil => exact absurd rfl hne
  | cons property rest ih =>
      have hproperty := h property List.mem_cons_self
      rw [outlines, patterns, List.map_append]
      cases rest with
      | nil =>
          have hlast := (hproperty "" (by decide)).indent hstep
          rw [String.append_empty] at hlast
          simpa [outlines, patterns] using hlast
      | cons next rest =>
          -- The separator's comma ends the property's last line, which is not indented again.
          have hfirst := (hproperty "," (by decide)).indent hstep
          have hrest := ih (List.cons_ne_nil _ _) fun p hp => h p (List.mem_cons_of_mem property hp)
          rw [Text.indent_append_inline layout.step _ (by decide)] at hfirst
          rw [patterns, String.intercalate_cons_cons, ← patterns,
            show ",\n" = "," ++ "\n" from rfl, ← String.append_assoc]
          exact hfirst.append hrest

theorem DestructuredProperty.follows_shapeTypes {properties : List DestructuredProperty}
    (hne : properties ≠ [])
    (h : ∀ property ∈ properties, ∀ inferred,
      Follows .type layout.step property.outline (property.shapeType layout inferred)) :
    Follows .type layout.step ((outlines properties).map OutlineRow.deeper)
      ("\n".intercalate (shapeTypes layout properties)) := by
  induction properties with
  | nil => exact absurd rfl hne
  | cons property rest ih =>
      have hfirst := (h property List.mem_cons_self
        (layout.markUnspecified && !(property :: rest).any (·.isNested))).indent hstep
      rw [outlines, shapeTypes, List.map_append]
      cases rest with
      | nil => simpa [outlines, shapeTypes] using hfirst
      | cons next rest =>
          have hrest := ih (List.cons_ne_nil _ _) fun p hp => h p (List.mem_cons_of_mem property hp)
          rw [shapeTypes, String.intercalate_cons_cons, ← shapeTypes]
          exact hfirst.append hrest

theorem ObjectParameter.Everywhere.follows_pattern {param : ObjectParameter}
    (h : param.Everywhere IsBare) : ∀ stop ∈ OutlineStyle.pattern.stops,
      Follows .pattern layout.step param.outline (param.pattern layout ++ stop) := by
  have hinline : ∀ stop ∈ OutlineStyle.pattern.stops, '\n' ∉ stop.toList := by decide
  -- For every end of the last line at once, since a pattern inside this one may have a comma there.
  induction h with
  | @intro param here _ ih =>
      intro stop hstop
      obtain ⟨properties, type, isOptional⟩ := param
      cases properties with
      | nil =>
          rw [outline, pattern]
          exact .empty (by decide) hstop (hinline stop hstop)
      | cons first rest =>
          have hbody := DestructuredProperty.follows_patterns hstep (List.cons_ne_nil first rest)
            fun property hp stop hstop => DestructuredProperty.follows_pattern
              (here.keys_inline property hp) (ih property hp) hstop (hinline stop hstop)
          rw [outline, pattern]
          exact hbody.braces (by decide) (by decide) hstop (hinline stop hstop)

theorem ObjectParameter.Everywhere.follows_typeText {param : ObjectParameter}
    (h : param.Everywhere IsBare) : ∀ stop ∈ OutlineStyle.type.stops,
      Follows .type layout.step param.outline (param.typeText layout ++ stop) := by
  have hinline : ∀ stop ∈ OutlineStyle.type.stops, '\n' ∉ stop.toList := by decide
  induction h with
  | @intro param here _ ih =>
      intro stop hstop
      obtain ⟨properties, type, isOptional⟩ := param
      obtain rfl : type = none := here.untyped
      cases properties with
      | nil =>
          rw [outline, typeText]
          exact .empty (by decide) hstop (hinline stop hstop)
      | cons first rest =>
          have hbody := DestructuredProperty.follows_shapeTypes hstep (List.cons_ne_nil first rest)
            fun property hp => DestructuredProperty.follows_shapeType
              (here.keys_inline property hp) (ih property hp)
          rw [outline, typeText]
          exact hbody.braces (by decide) (by decide) hstop (hinline stop hstop)

end

/-- The pattern and the type of a destructured parameter have the same lines: as many as its
outline has rows, and at each place two lines as far in that show the same key or the same brace.
The outline has all keys of the parameter, in their order and at their depth. -/
theorem Layout.pattern_matches_type (layout : Layout) (hstep : '\n' ∉ layout.step.toList)
    {param : ObjectParameter} (h : param.Everywhere ObjectParameter.IsBare) :
    (Text.lines (param.pattern layout)).length = param.outline.length ∧
      (Text.lines (param.typeText layout)).length = param.outline.length ∧
      (∀ (i : Nat) (row : OutlineRow), param.outline[i]? = some row → ∃ left right,
        (Text.lines (param.pattern layout))[i]? = some left ∧
        (Text.lines (param.typeText layout))[i]? = some right ∧
        row.Shows .pattern layout.step left ∧ row.Shows .type layout.step right) ∧
      param.outline.filterMap (OutlineRow.keyAt? 0) = param.keys 0 := by
  have hpattern := h.follows_pattern hstep "" (by decide)
  have htype := h.follows_typeText hstep "" (by decide)
  rw [String.append_empty] at hpattern htype
  refine ⟨hpattern.length_eq.symm, htype.length_eq.symm, fun i row hrow => ?_,
    param.filterMap_keyAt? 0⟩
  obtain ⟨left, hleft, hshown⟩ := exists_getElem?_of_forall₂ hpattern hrow
  obtain ⟨right, hright, hshape⟩ := exists_getElem?_of_forall₂ htype hrow
  exact ⟨left, right, hleft, hright, hshown, hshape⟩

/-- `{ a, b: { c, d: {} } = {} }` -/
def nestedParam : ObjectParameter :=
  ⟨[⟨"a", none, false⟩,
    ⟨"b", some ⟨[⟨"c", none, false⟩, ⟨"d", some ⟨[], none, false⟩, false⟩], none, false⟩, true⟩],
    none, false⟩

theorem Layout.pattern_matches_type_nestedParam :
    let layout : Layout := { markUnspecified := true }
    '\n' ∉ layout.step.toList ∧ nestedParam.Everywhere ObjectParameter.IsBare ∧
      (Text.lines (nestedParam.pattern layout)).length = 7 ∧
      ∃ left right, (Text.lines (nestedParam.pattern layout))[4]? = some left ∧
        (Text.lines (nestedParam.typeText layout))[4]? = some right ∧
        OutlineRow.Shows .pattern layout.step ⟨2, .nested "d" .empty⟩ left ∧
        OutlineRow.Shows .type layout.step ⟨2, .nested "d" .empty⟩ right := by
  intro layout
  have hstep : '\n' ∉ layout.step.toList := by decide
  have hbare : nestedParam.Everywhere ObjectParameter.IsBare := by
    refine .intro ⟨rfl, by decide⟩ ?_
    simp only [nestedParam, List.mem_cons, List.not_mem_nil, or_false]
    rintro _ (rfl | rfl) nested ⟨⟩
    refine .intro ⟨rfl, by decide⟩ ?_
    simp only [List.mem_cons, List.not_mem_nil, or_false]
    rintro _ (rfl | rfl) nested ⟨⟩
    exact .intro ⟨rfl, nofun⟩ nofun
  obtain ⟨hlength, -, hlines, -⟩ := layout.pattern_matches_type hstep hbare
  exact ⟨hstep, hbare, hlength, hlines 4 _ rfl⟩

example : nestedParam.typeText { markUnspecified := true } =
    "\x7b\n  a: any;\n  b?: \x7b\n    c: any;\n    d: \x7b\x7d;\n  \x7d;\n\x7d" := by
  rfl

end Ambient
