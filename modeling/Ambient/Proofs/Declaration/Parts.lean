import Ambient.Declaration.Layout

namespace Ambient

/-!
# Declarations inside declarations

The declarations that a declaration is made of, and what holds everywhere in one.
Whether a module is written around its children is decided at the module
alone, so declarations without a module inside are written the same either way.
-/

/-- The declarations directly inside a form. -/
def DeclarationForm.parts : DeclarationForm → List Declaration
  | .module _ children => children
  | .imports _ specifiers _ => specifiers
  | .exported declaration => [declaration]
  | .exportList specifiers _ => specifiers
  | .variables _ declarators => declarators
  | .interface _ members _ _ => members
  | .classes _ _ members _ _ bases => members ++ bases
  | _ => []

/-- Something holds of the form of a declaration and of all those inside it. -/
inductive Declaration.Everywhere (P : DeclarationForm → Prop) : Declaration → Prop
  | intro {d : Declaration} (here : P d.form)
      (inside : ∀ part ∈ d.form.parts, Declaration.Everywhere P part) : Declaration.Everywhere P d

theorem Declaration.Everywhere.leaf {P : DeclarationForm → Prop} {d : Declaration}
    (here : P d.form) (h : d.form.parts = []) : d.Everywhere P :=
  .intro here (by simp [h])

def DeclarationForm.isModule : DeclarationForm → Bool
  | .module .. => true
  | _ => false

theorem Layout.comments_nil (layout : Layout) : layout.comments [] = "" := by
  cases h : layout.suppressComments <;> simp [Layout.comments, commentBlock, h]

theorem Layout.comments_suppressed {layout : Layout} (h : layout.suppressComments = true)
    (comments : List Comment) : layout.comments comments = "" := by
  simp [Layout.comments, h]

theorem Declaration.text_eq (layout : Layout) (d : Declaration) :
    d.text layout = layout.comments d.comments ++ d.form.text layout := by
  obtain ⟨comments, form⟩ := d
  rw [Declaration.text]

theorem Declaration.specifierTexts_eq_map (layout : Layout) (declarations : List Declaration) :
    specifierTexts layout declarations =
      declarations.map fun d => (d.form.isNamedSpecifier, d.text layout) := by
  induction declarations with
  | nil => rfl
  | cons first rest ih =>
      obtain ⟨comments, form⟩ := first
      simp [specifierTexts, text, ih]

/-- Layouts with all in common that the text of a parameter depends on. -/
structure Layout.SameParams (a b : Layout) : Prop where
  step : a.step = b.step
  markUnspecified : a.markUnspecified = b.markUnspecified

section

variable {a b : Layout}

mutual

theorem ObjectParameter.pattern_congr (h : a.step = b.step) : ∀ param : ObjectParameter,
    param.pattern a = param.pattern b
  | ⟨[], _, _⟩ => rfl
  | ⟨first :: rest, _, _⟩ => by
    simp only [ObjectParameter.pattern]
    rw [DestructuredProperty.patterns_congr h (first :: rest)]

theorem DestructuredProperty.patterns_congr (h : a.step = b.step) :
    ∀ properties : List DestructuredProperty,
      DestructuredProperty.patterns a properties = DestructuredProperty.patterns b properties
  | [] => rfl
  | property :: rest => by
    simp only [DestructuredProperty.patterns]
    rw [property.pattern_congr h, DestructuredProperty.patterns_congr h rest, h]

theorem DestructuredProperty.pattern_congr (h : a.step = b.step) :
    ∀ property : DestructuredProperty, property.pattern a = property.pattern b
  | ⟨_, none, _⟩ => rfl
  | ⟨_, some nested, _⟩ => by
    simp only [DestructuredProperty.pattern]
    rw [nested.pattern_congr h]

end

mutual

theorem DestructuredProperty.shapeTypes_congr (h : a.SameParams b) :
    ∀ properties : List DestructuredProperty,
      DestructuredProperty.shapeTypes a properties = DestructuredProperty.shapeTypes b properties
  | [] => rfl
  | property :: rest => by
    simp only [DestructuredProperty.shapeTypes]
    rw [property.shapeType_congr h, DestructuredProperty.shapeTypes_congr h rest, h.step,
      h.markUnspecified]

theorem DestructuredProperty.shapeType_congr (h : a.SameParams b) (inferred : Bool) :
    ∀ property : DestructuredProperty, property.shapeType a inferred = property.shapeType b inferred
  | ⟨_, none, _⟩ => rfl
  | ⟨_, some nested, _⟩ => by
    simp only [DestructuredProperty.shapeType]
    rw [nested.typeText_congr h]

theorem ObjectParameter.typeText_congr (h : a.SameParams b) : ∀ param : ObjectParameter,
    param.typeText a = param.typeText b
  | ⟨_, some _, _⟩ => rfl
  | ⟨[], none, _⟩ => rfl
  | ⟨first :: rest, none, _⟩ => by
    simp only [ObjectParameter.typeText]
    rw [DestructuredProperty.shapeTypes_congr h (first :: rest)]

end

theorem Param.texts_congr (h : a.SameParams b) (params : List Param) :
    Param.texts a params = Param.texts b params := by
  induction params with
  | nil => rfl
  | cons param rest ih =>
      have hparam : ∀ trailing, param.text a trailing = param.text b trailing := by
        intro trailing
        cases param with
        | named param => rfl
        | object param =>
            simp only [Param.text, ObjectParameter.text, param.pattern_congr h.step,
              param.typeText_congr h]
      simp only [Param.texts, hparam, h.markUnspecified, ih]

theorem Layout.params_congr (h : a.SameParams b) (params : List Param) :
    a.params params = b.params params := by
  rw [Layout.params, Param.texts_congr h, Layout.params]

theorem Layout.signature_congr (h : a.SameParams b) (signature : Signature) :
    a.signature signature = b.signature signature := by
  simp only [Layout.signature, Layout.params_congr h]

end

section

variable (layout : Layout) (ambient : Bool)

theorem DeclarationForm.text_suppressAmbient {d : Declaration}
    (h : d.Everywhere fun form => form.isModule = false) :
    d.form.text { layout with suppressAmbient := ambient } = d.form.text layout := by
  have hsame : ({ layout with suppressAmbient := ambient } : Layout).SameParams layout := ⟨rfl, rfl⟩
  have hparams := Layout.params_congr hsame
  have hsignature := Layout.signature_congr hsame
  induction h with
  | @intro d here inside ih =>
      obtain ⟨comments, form⟩ := d
      have hpart : ∀ part ∈ form.parts,
          part.text { layout with suppressAmbient := ambient } = part.text layout := by
        intro part hpart
        rw [Declaration.text_eq, Declaration.text_eq, ih part hpart]
        rfl
      have htexts : ∀ parts : List Declaration, (∀ part ∈ parts, part ∈ form.parts) →
          Declaration.texts { layout with suppressAmbient := ambient } parts =
            Declaration.texts layout parts := by
        intro parts hparts
        rw [Declaration.texts_eq_map, Declaration.texts_eq_map]
        exact List.map_congr_left fun part h => hpart part (hparts part h)
      cases form with
      | module name children => cases here
      | imports enclosed specifiers source =>
          have hspecifiers :
              Declaration.specifierTexts { layout with suppressAmbient := ambient } specifiers =
                Declaration.specifierTexts layout specifiers := by
            rw [Declaration.specifierTexts_eq_map, Declaration.specifierTexts_eq_map]
            exact List.map_congr_left fun part h => by rw [hpart part h]
          simp only [DeclarationForm.text, hspecifiers]
      | exported inner =>
          have hinner := ih inner (by simp [DeclarationForm.parts])
          obtain ⟨comments, form⟩ := inner
          simp only [DeclarationForm.text, hinner]
          rfl
      | exportList specifiers source =>
          simp only [DeclarationForm.text, htexts specifiers fun _ h => h]
          rfl
      | «variables» keyword declarators =>
          simp only [DeclarationForm.text, htexts declarators fun _ h => h]
          rfl
      | interface name members bases typeParams =>
          simp only [DeclarationForm.text, htexts members fun _ h => h]
          rfl
      | classes name superName members typeParams superArguments bases =>
          have hbases : Declaration.bareTexts { layout with suppressAmbient := ambient } bases =
              Declaration.bareTexts layout bases := by
            rw [Declaration.bareTexts_eq_map, Declaration.bareTexts_eq_map]
            exact List.map_congr_left fun part hpart =>
              ih part (List.mem_append_right members hpart)
          simp only [DeclarationForm.text, hbases,
            htexts members fun _ h => List.mem_append_left bases h]
          rfl
      | function signature =>
          simp only [DeclarationForm.text, hsignature]
      | interfaceMethod signature isStatic isOptional =>
          simp only [DeclarationForm.text, Layout.interfaceMethod, hsignature, hparams]
      | interfaceCall signature =>
          simp only [DeclarationForm.text, hsignature]
      | classMethod signature isStatic =>
          simp only [DeclarationForm.text, hsignature]
      | classConstructor params =>
          simp only [DeclarationForm.text, hparams]
      | _ => simp only [DeclarationForm.text]

/-- Without a module inside, it makes no difference whether modules are written
around their children. -/
theorem Declaration.text_suppressAmbient {d : Declaration}
    (h : d.Everywhere fun form => form.isModule = false) :
    d.text { layout with suppressAmbient := ambient } = d.text layout := by
  rw [Declaration.text_eq, Declaration.text_eq,
    DeclarationForm.text_suppressAmbient layout ambient h]
  rfl

end

end Ambient
