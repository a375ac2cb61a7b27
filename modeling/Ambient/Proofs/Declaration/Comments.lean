import Ambient.Proofs.Declaration.Parts

namespace Ambient

/-!
# Declarations without comments

Leaving comments out while a declaration is written comes to the same as taking them off the
declaration and everything inside it beforehand.
-/

mutual

/-- A declaration without its comments and those inside it. -/
def Declaration.bare : Declaration → Declaration
  | ⟨_, form⟩ => ⟨[], form.bare⟩

def Declaration.allBare : List Declaration → List Declaration
  | [] => []
  | declaration :: rest => declaration.bare :: Declaration.allBare rest

def DeclarationForm.bare : DeclarationForm → DeclarationForm
  | .module name children => .module name (Declaration.allBare children)
  | .imports enclosed specifiers source =>
    .imports enclosed (Declaration.allBare specifiers) source
  | .exported declaration => .exported declaration.bare
  | .exportList specifiers source => .exportList (Declaration.allBare specifiers) source
  | .variables keyword declarators => .variables keyword (Declaration.allBare declarators)
  | .interface name members bases typeParams =>
    .interface name (Declaration.allBare members) bases typeParams
  | .classes name superName members typeParams superArguments implemented =>
    .classes name superName (Declaration.allBare members) typeParams superArguments
      (Declaration.allBare implemented)
  | form => form

end

@[simp] theorem Declaration.allBare_eq_map (declarations : List Declaration) :
    Declaration.allBare declarations = declarations.map Declaration.bare := by
  induction declarations with
  | nil => rfl
  | cons first rest ih => rw [Declaration.allBare, ih, List.map_cons]

@[simp] theorem Declaration.form_bare (d : Declaration) : d.bare.form = d.form.bare := by
  obtain ⟨comments, form⟩ := d
  rfl

@[simp] theorem DeclarationForm.isNamedSpecifier_bare (form : DeclarationForm) :
    form.bare.isNamedSpecifier = form.isNamedSpecifier := by
  cases form <;> rfl

@[simp] theorem DeclarationForm.isInterface_bare (form : DeclarationForm) :
    form.bare.isInterface = form.isInterface := by
  cases form <;> rfl

@[simp] theorem DeclarationForm.endsInBrace_bare (form : DeclarationForm) :
    form.bare.endsInBrace = form.endsInBrace := by
  cases form <;> rfl

section

variable (layout : Layout)

theorem Layout.sameParams_suppressComments :
    ({ layout with suppressComments := true } : Layout).SameParams layout :=
  ⟨rfl, rfl⟩

theorem Layout.params_suppressComments (params : List Param) :
    ({ layout with suppressComments := true } : Layout).params params = layout.params params :=
  Layout.params_congr layout.sameParams_suppressComments params

theorem Layout.signature_suppressComments (signature : Signature) :
    ({ layout with suppressComments := true } : Layout).signature signature =
      layout.signature signature :=
  Layout.signature_congr layout.sameParams_suppressComments signature

theorem Layout.interfaceMethod_suppressComments (signature : Signature)
    (isStatic isOptional : Bool) :
    ({ layout with suppressComments := true } : Layout).interfaceMethod signature isStatic
      isOptional = layout.interfaceMethod signature isStatic isOptional := by
  simp only [Layout.interfaceMethod, Layout.signature_suppressComments,
    Layout.params_suppressComments]

mutual

theorem Declaration.text_bare : ∀ d : Declaration,
    d.bare.text layout = d.text { layout with suppressComments := true }
  | ⟨comments, form⟩ => by
    rw [Declaration.bare, Declaration.text, Declaration.text, Layout.comments_nil,
      Layout.comments_suppressed rfl, form.text_bare]

theorem Declaration.texts_allBare : ∀ declarations : List Declaration,
    Declaration.texts layout (Declaration.allBare declarations) =
      Declaration.texts { layout with suppressComments := true } declarations
  | [] => rfl
  | ⟨comments, form⟩ :: rest => by
    rw [Declaration.allBare, Declaration.bare, Declaration.texts, Declaration.texts,
      Layout.comments_nil, Layout.comments_suppressed rfl, form.text_bare,
      Declaration.texts_allBare rest]

theorem Declaration.bareTexts_allBare : ∀ declarations : List Declaration,
    Declaration.bareTexts layout (Declaration.allBare declarations) =
      Declaration.bareTexts { layout with suppressComments := true } declarations
  | [] => rfl
  | ⟨_, form⟩ :: rest => by
    rw [Declaration.allBare, Declaration.bare, Declaration.bareTexts, Declaration.bareTexts,
      form.text_bare, Declaration.bareTexts_allBare rest]

theorem Declaration.specifierTexts_allBare : ∀ declarations : List Declaration,
    Declaration.specifierTexts layout (Declaration.allBare declarations) =
      Declaration.specifierTexts { layout with suppressComments := true } declarations
  | [] => rfl
  | ⟨comments, form⟩ :: rest => by
    rw [Declaration.allBare, Declaration.bare, Declaration.specifierTexts,
      Declaration.specifierTexts, Layout.comments_nil, Layout.comments_suppressed rfl,
      form.text_bare, form.isNamedSpecifier_bare, Declaration.specifierTexts_allBare rest]

/-- Comments are written in front of declarations only, so without them a form has the same text
with and without the comments inside it. -/
theorem DeclarationForm.text_bare : ∀ form : DeclarationForm,
    form.bare.text layout = form.text { layout with suppressComments := true }
  | .module name children => by
    simp only [DeclarationForm.bare, DeclarationForm.text, Declaration.texts_allBare children,
      Layout.body]
  | .imports enclosed specifiers source => by
    simp only [DeclarationForm.bare, DeclarationForm.text,
      Declaration.specifierTexts_allBare specifiers]
  | .exported ⟨comments, form⟩ => by
    rw [DeclarationForm.bare, Declaration.bare, DeclarationForm.text, DeclarationForm.text,
      Layout.comments_nil, Layout.comments_suppressed rfl, form.text_bare, form.isInterface_bare,
      form.endsInBrace_bare]
  | .exportList specifiers source => by
    simp only [DeclarationForm.bare, DeclarationForm.text, Declaration.texts_allBare specifiers,
      Layout.body]
  | .variables keyword declarators => by
    simp only [DeclarationForm.bare, DeclarationForm.text, Declaration.texts_allBare declarators,
      Layout.declarators]
  | .interface name members bases typeParams => by
    simp only [DeclarationForm.bare, DeclarationForm.text, Declaration.texts_allBare members,
      Layout.body]
  | .classes name superName members typeParams superArguments implemented => by
    simp only [DeclarationForm.bare, DeclarationForm.text, Declaration.texts_allBare members,
      Declaration.bareTexts_allBare implemented, Layout.body]
  | .function signature => by
    simp only [DeclarationForm.bare, DeclarationForm.text, Layout.signature_suppressComments]
  | .interfaceMethod signature isStatic isOptional => by
    simp only [DeclarationForm.bare, DeclarationForm.text,
      Layout.interfaceMethod_suppressComments]
  | .interfaceCall signature => by
    simp only [DeclarationForm.bare, DeclarationForm.text, Layout.signature_suppressComments]
  | .classMethod signature isStatic => by
    simp only [DeclarationForm.bare, DeclarationForm.text, Layout.signature_suppressComments]
  | .classConstructor params => by
    simp only [DeclarationForm.bare, DeclarationForm.text, Layout.params_suppressComments]
  | .effectImport _ => rfl
  | .importSpecifier _ _ => rfl
  | .wholeSpecifier _ => rfl
  | .allSpecifier _ => rfl
  | .exportAll _ => rfl
  | .exportSpecifier _ _ => rfl
  | .declarator _ _ => rfl
  | .interfaceProperty .. => rfl
  | .interfaceIndexer .. => rfl
  | .implemented _ _ => rfl
  | .classProperty .. => rfl

end

end

end Ambient
