import Ambient.Proofs.Declaration.Parts
import Ambient.Proofs.Text.Lines

namespace Ambient

/-!
# Optional parameters

A parameter is marked as optional if the source made it so. When optional parameters are
inferred, the untyped parameters at the end of a list are marked too, and so are the properties
at the end of a destructured parameter, which are written out wherever no type is given. No
parameter that must be given comes to stand behind one that need not be.
-/

/-- The layout with or without inferred marks. -/
def Layout.marking (layout : Layout) (on : Bool) : Layout := { layout with markUnspecified := on }

namespace Param

/-- What stands in front of the place for a mark. -/
def head (layout : Layout) : Param → String
  | .named param => (if param.isRest then "..." else "") ++ param.name
  | .object param => param.pattern layout

/-- The type behind a parameter. -/
def typeText (layout : Layout) : Param → String
  | .named param => param.type.getD anyText
  | .object param => param.typeText layout

theorem text_eq (layout : Layout) (trailing : Bool) (param : Param) :
    param.text layout trailing = param.head layout ++
      optionalMark (param.isOptional || (trailing && !param.isTyped && !param.isRest)) ++ ": " ++
        param.typeText layout := by
  cases param with
  | named param =>
      obtain ⟨name, type, isRest, isOptional⟩ := param
      cases type <;> rfl
  | object param =>
      obtain ⟨properties, type, isOptional⟩ := param
      cases type <;> simp [text, ObjectParameter.text, head, typeText, Param.isOptional, isTyped,
        Param.isRest]

theorem head_marking (layout : Layout) (on : Bool) (param : Param) :
    param.head (layout.marking on) = param.head layout := by
  cases param with
  | named param => rfl
  | object param =>
      have hstep : (layout.marking on).step = layout.step := rfl
      exact param.pattern_congr hstep

theorem getElem?_texts (layout : Layout) {params : List Param} {i : Nat} {param : Param}
    (h : params[i]? = some param) :
    (texts layout params)[i]? =
      some (param.text layout (layout.markUnspecified && !(params.drop i).any isTyped)) := by
  induction params generalizing i with
  | nil => simp at h
  | cons first rest ih =>
      cases i with
      | zero =>
          obtain rfl : first = param := by simpa using h
          rfl
      | succ i =>
          rw [texts, List.getElem?_cons_succ, List.drop_succ_cons]
          exact ih (by simpa using h)

/-- Whether a parameter is to be marked, `after` being the list from it on. -/
def Marks (layout : Layout) (param : Param) (after : List Param) : Prop :=
  param.isOptional = true ∨ layout.markUnspecified = true ∧ param.isTyped = false ∧
    param.isRest = false ∧ ∀ other ∈ after, other.isTyped = false

theorem typeText_marking (layout : Layout) (on : Bool) {param : Param}
    (h : param.isTyped = true ∨ ∃ named, param = .named named) :
    param.typeText (layout.marking on) = param.typeText layout := by
  cases param with
  | named param => rfl
  | object param =>
      obtain ⟨properties, type, isOptional⟩ := param
      cases type with
      | some type => rfl
      | none => rcases h with h | ⟨named, h⟩ <;> cases h

/-- A parameter list writes each parameter with its mark, if it is to have one. -/
theorem exists_marked (layout : Layout) {params : List Param} {i : Nat} {param : Param}
    (h : params[i]? = some param) : ∃ marked,
      (texts layout params)[i]? = some (param.head layout ++ optionalMark marked ++ ": " ++
        param.typeText layout) ∧
      (marked = true ↔ param.Marks layout (params.drop i)) := by
  refine ⟨_, by rw [getElem?_texts layout h, text_eq], ?_⟩
  simp only [Marks, Bool.or_eq_true, Bool.and_eq_true, Bool.not_eq_true', List.any_eq_false,
    Bool.not_eq_true]
  constructor
  · rintro (hoptional | ⟨⟨⟨hon, htail⟩, htyped⟩, hrest⟩)
    · exact .inl hoptional
    · exact .inr ⟨hon, htyped, hrest, htail⟩
  · rintro (hoptional | ⟨hon, htyped, hrest, htail⟩)
    · exact .inl hoptional
    · exact .inr ⟨⟨⟨hon, htail⟩, htyped⟩, hrest⟩

/-- The parameter at a place of a list is written with a mark. -/
def WrittenOptional (layout : Layout) (params : List Param) (i : Nat) : Prop :=
  ∃ param, params[i]? = some param ∧
    (texts layout params)[i]? = some (param.head layout ++ "?" ++ ": " ++ param.typeText layout)

/-- No parameter that must be given stands behind one that need not be, the rest parameter
apart. -/
def IsLegal (layout : Layout) (params : List Param) : Prop :=
  ∀ i j, i < j → WrittenOptional layout params i → ∀ param, params[j]? = some param →
    param.isRest = false → WrittenOptional layout params j

theorem writtenOptional_iff (layout : Layout) {params : List Param} {i : Nat} {param : Param}
    (h : params[i]? = some param) :
    WrittenOptional layout params i ↔ param.Marks layout (params.drop i) := by
  obtain ⟨marked, htext, hmarked⟩ := exists_marked layout h
  rw [← hmarked]
  constructor
  · rintro ⟨same, hsame, hwritten⟩
    obtain rfl : param = same := Option.some.inj (h.symm.trans hsame)
    have heq := congrArg String.length (Option.some.inj (htext.symm.trans hwritten))
    cases marked with
    | true => rfl
    | false =>
        have hmark : ("?" : String).length = (optionalMark false).length + 1 := rfl
        simp only [String.length_append, hmark] at heq
        omega
  · rintro rfl
    exact ⟨param, h, htext⟩

/-- Where an optional parameter is inferred, all the parameters behind it are untyped, so all of
them but a rest parameter are inferred too. -/
theorem Marks.of_later {layout : Layout} {params : List Param} {i j : Nat} (hij : i < j)
    {param other : Param} (h : param.Marks layout (params.drop i)) (hj : params[j]? = some other)
    (hrest : other.isRest = false) (hrequired : param.isOptional = false) :
    other.Marks layout (params.drop j) := by
  rcases h with hoptional | ⟨hon, -, -, htail⟩
  · rw [hrequired] at hoptional
    cases hoptional
  · have hlater : ∀ p ∈ params.drop j, p.isTyped = false := by
      intro p hp
      apply htail
      have hdrop : params.drop j = (params.drop i).drop (j - i) := by
        rw [List.drop_drop]
        congr 1
        omega
      rw [hdrop] at hp
      exact List.mem_of_mem_drop hp
    have hhead : other ∈ params.drop j := by
      apply List.mem_of_getElem? (i := 0)
      rw [List.getElem?_drop]
      exact hj
    exact .inr ⟨hon, hlater other hhead, hrest, hlater⟩

theorem IsLegal.marking {layout : Layout} {params : List Param}
    (h : IsLegal (layout.marking false) params) : IsLegal (layout.marking true) params := by
  intro i j hij hi other hj hrest
  obtain ⟨param, hparam, -⟩ := id hi
  rw [writtenOptional_iff _ hparam] at hi
  rw [writtenOptional_iff _ hj]
  cases hoptional : param.isOptional with
  | false => exact hi.of_later hij hj hrest hoptional
  | true =>
      have hplain : WrittenOptional (layout.marking false) params i :=
        (writtenOptional_iff _ hparam).mpr (.inl hoptional)
      have hlater := (writtenOptional_iff _ hj).mp (h i j hij hplain other hj hrest)
      rcases hlater with hlater | ⟨hon, -⟩
      · exact .inl hlater
      · cases hon

end Param

namespace DestructuredProperty

/-- The type behind a property of a pattern. -/
def typeText (layout : Layout) (property : DestructuredProperty) : String :=
  match property.value with
  | none => anyText
  | some nested => nested.typeText layout

/-- A property in the shape of its pattern. -/
def row (layout : Layout) (property : DestructuredProperty) (marked : Bool) : String :=
  property.key ++ optionalMark marked ++ ": " ++ property.typeText layout ++ ";"

theorem shapeType_eq_row (layout : Layout) (inferred : Bool) (property : DestructuredProperty) :
    property.shapeType layout inferred = property.row layout (property.isOptional || inferred) := by
  obtain ⟨key, value, isOptional⟩ := property
  cases value <;> rfl

theorem getElem?_shapeTypes (layout : Layout) {properties : List DestructuredProperty} {i : Nat}
    {property : DestructuredProperty} (h : properties[i]? = some property) :
    (shapeTypes layout properties)[i]? = some (Text.indent layout.step (property.shapeType layout
      (layout.markUnspecified && !(properties.drop i).any (·.isNested)))) := by
  induction properties generalizing i with
  | nil => simp at h
  | cons first rest ih =>
      cases i with
      | zero =>
          obtain rfl : first = property := by simpa using h
          rfl
      | succ i =>
          rw [shapeTypes, List.getElem?_cons_succ, List.drop_succ_cons]
          exact ih (by simpa using h)

/-- Whether a property is to be marked, `after` being the list from it on. -/
def Marks (layout : Layout) (property : DestructuredProperty) (after : List DestructuredProperty) :
    Prop :=
  property.isOptional = true ∨ layout.markUnspecified = true ∧ property.value = none ∧
    ∀ other ∈ after, other.value = none

/-- A pattern's shape has a row for each property, with a mark if it is to have one. -/
theorem exists_marked_row (layout : Layout) {properties : List DestructuredProperty} {i : Nat}
    {property : DestructuredProperty} (h : properties[i]? = some property) : ∃ marked,
      (shapeTypes layout properties)[i]? =
        some (Text.indent layout.step (property.row layout marked)) ∧
      (marked = true ↔ property.Marks layout (properties.drop i)) := by
  refine ⟨_, by rw [getElem?_shapeTypes layout h, shapeType_eq_row], ?_⟩
  have hhead : property ∈ properties.drop i := by
    apply List.mem_of_getElem? (i := 0)
    rw [List.getElem?_drop]
    exact h
  simp only [Marks, Bool.or_eq_true, Bool.and_eq_true, Bool.not_eq_true', List.any_eq_false,
    isNested, Option.not_isSome_iff_eq_none]
  constructor
  · rintro (hoptional | ⟨hon, htail⟩)
    · exact .inl hoptional
    · exact .inr ⟨hon, htail property hhead, htail⟩
  · rintro (hoptional | ⟨hon, -, htail⟩)
    · exact .inl hoptional
    · exact .inr ⟨hon, htail⟩

end DestructuredProperty

namespace ObjectParameter

/-- Rows in braces. -/
def shape (rows : List String) : String :=
  if rows = [] then "\x7b\x7d" else "\x7b\n" ++ "\n".intercalate rows ++ "\n\x7d"

/-- An untyped pattern is written out as the shape that it has. -/
theorem typeText_eq_shape (layout : Layout) {param : ObjectParameter} (h : param.type = none) :
    param.typeText layout = shape (DestructuredProperty.shapeTypes layout param.properties) := by
  obtain ⟨properties, type, isOptional⟩ := param
  obtain rfl : type = none := h
  cases properties with
  | nil => rfl
  | cons first rest => rfl

/-- The untyped pattern `inner` stands at this depth in another one, and no pattern on the way to
it has a type. -/
inductive Inside : ObjectParameter → Nat → ObjectParameter → Prop
  | here {param : ObjectParameter} (htype : param.type = none) : Inside param 0 param
  | step {param nested inner : ObjectParameter} {property : DestructuredProperty} {depth : Nat}
      (htype : param.type = none) (hmem : property ∈ param.properties)
      (hvalue : property.value = some nested) (h : Inside nested depth inner) :
      Inside param (depth + 1) inner

theorem Inside.type_eq_none {param inner : ObjectParameter} {depth : Nat}
    (h : param.Inside depth inner) : inner.type = none := by
  induction h with
  | here htype => exact htype
  | step _ _ _ _ ih => exact ih

/-- A nested pattern's shape stands in the row of the property that it belongs to. -/
theorem exists_nested (layout : Layout) {param nested : ObjectParameter}
    {property : DestructuredProperty} (htype : param.type = none)
    (hmem : property ∈ param.properties) (hvalue : property.value = some nested) :
    ∃ before after, param.typeText layout =
      before ++ Text.hang layout.step (nested.typeText layout) ++ after := by
  obtain ⟨i, hi⟩ := List.getElem?_of_mem hmem
  obtain ⟨marked, hrow, -⟩ := DestructuredProperty.exists_marked_row layout hi
  have hrows := List.mem_of_getElem? hrow
  obtain ⟨before, after, hsplit⟩ := Text.exists_intercalate "\n" hrows
  have hnested : property.typeText layout = nested.typeText layout := by
    rw [DestructuredProperty.typeText, hvalue]
  rw [typeText_eq_shape layout htype, shape, if_neg (List.ne_nil_of_mem hrows), hsplit,
    Text.indent_eq_hang, DestructuredProperty.row, hnested, Text.hang_append, Text.hang_append]
  refine ⟨"\x7b\n" ++ before ++ layout.step ++
    Text.hang layout.step (property.key ++ optionalMark marked ++ ": "),
    Text.hang layout.step ";" ++ after ++ "\n\x7d", ?_⟩
  simp only [String.append_assoc]

/-- The shape of a pattern inside another one is part of the outer one's, moved in by one step for
each pattern around it. -/
theorem Inside.exists_stands (layout : Layout) {param inner : ObjectParameter} {depth : Nat}
    (h : param.Inside depth inner) : ∃ before after, param.typeText layout =
      before ++ (Text.hang layout.step)^[depth] (inner.typeText layout) ++ after := by
  induction h with
  | here _ => exact ⟨"", "", by simp⟩
  | @step param nested inner property depth htype hmem hvalue _ ih =>
      exact Text.exists_stands_hang (exists_nested layout htype hmem hvalue) ih

end ObjectParameter

/-- In a parameter list exactly the parameters that the source made optional are marked, and with
inferred marks also the untyped ones behind the last typed one, a rest parameter apart. A mark
changes nothing else of a parameter, except that inferred ones stand also in the shape of an
untyped pattern: at every depth, exactly the properties with a default value are marked there, and
with inferred marks those behind the last nested pattern. Inferred marks keep a list legal. -/
theorem Layout.marks_untyped_tail (layout : Layout) (params : List Param) :
    (∀ (i : Nat) (param : Param), params[i]? = some param → ∃ marked,
      (Param.texts layout params)[i]? = some (param.head layout ++ optionalMark marked ++ ": " ++
        param.typeText layout) ∧
      (marked = true ↔ param.Marks layout (params.drop i))) ∧
    (∀ (param : Param) (on : Bool), param.head (layout.marking on) = param.head layout ∧
      (param.isTyped = true ∨ (∃ named, param = .named named) →
        param.typeText (layout.marking on) = param.typeText layout)) ∧
    (∀ outer, .object outer ∈ params → ∀ depth inner, outer.Inside depth inner →
      (∃ before after, outer.typeText layout =
        before ++ (Text.hang layout.step)^[depth] (inner.typeText layout) ++ after) ∧
      inner.typeText layout =
        ObjectParameter.shape (DestructuredProperty.shapeTypes layout inner.properties) ∧
      ∀ (i : Nat) (property : DestructuredProperty), inner.properties[i]? = some property →
        ∃ marked, (DestructuredProperty.shapeTypes layout inner.properties)[i]? =
            some (Text.indent layout.step (property.row layout marked)) ∧
          (marked = true ↔ property.Marks layout (inner.properties.drop i))) ∧
    (Param.IsLegal (layout.marking false) params →
      Param.IsLegal (layout.marking true) params) := by
  refine ⟨?_, ?_, ?_, Param.IsLegal.marking⟩
  · intro i param h
    exact Param.exists_marked layout h
  · intro param on
    exact ⟨param.head_marking layout on, param.typeText_marking layout on⟩
  · intro outer _ depth inner hinside
    refine ⟨hinside.exists_stands layout, ?_, ?_⟩
    · exact ObjectParameter.typeText_eq_shape layout hinside.type_eq_none
    · intro i property h
      exact DestructuredProperty.exists_marked_row layout h

/-- Behind the typed parameter everything is marked but the rest parameter. -/
example :
    Layout.params { markUnspecified := true }
      [.named { name := "a" }, .named { name := "b", type := some "B" },
        .object ⟨[⟨"c", some ⟨[⟨"d", none, false⟩], none, false⟩, false⟩, ⟨"e", none, false⟩],
          none, false⟩, .named { name := "f", isRest := true }] =
      "a: any, b: B, \x7b\n  c: \x7b\n    d\n  \x7d,\n  e\n\x7d?: \x7b\n  c: \x7b\n" ++
        "    d?: any;\n  \x7d;\n  e?: any;\n\x7d, ...f: any" := by
  rfl

end Ambient
