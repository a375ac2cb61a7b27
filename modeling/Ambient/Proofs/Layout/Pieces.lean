import Ambient.Proofs.Emission.WellFormed
import Ambient.Proofs.Lexical.Unescaped
import Ambient.Proofs.Text.Within

namespace Ambient

/-!
# Texts in a declaration

A declaration is made of texts that it takes as they are, of texts that it puts between quotes,
and of other declarations. All of them stand within its text, and so what a declaration shows
at any depth stands within the document.
-/

/-- The texts that a signature is made of. -/
def Signature.pieces (layout : Layout) (signature : Signature) : List String :=
  signature.name.toList ++ signature.typeParams ++ Param.texts layout signature.params ++
    signature.result.toList

/-- The texts that a form is made of. What it puts between quotes is there with its quotes. -/
def DeclarationForm.pieces (layout : Layout) : DeclarationForm → List String
  | .module name _ => if layout.suppressAmbient then [] else [Text.inQuotes name]
  | .effectImport source => [Text.inQuotes source]
  | .imports _ _ source => [Text.inQuotes source]
  | .exportAll source => [Text.inQuotes source]
  | .exportList _ source => source.toList.map Text.inQuotes
  | .declarator _ type => [type]
  | .function signature => signature.pieces layout
  | .interfaceMethod signature _ isOptional =>
    if isOptional then ({ signature with typeParams := [] } : Signature).pieces layout
    else signature.pieces layout
  | .interfaceCall signature => signature.pieces layout
  | .classMethod signature _ => signature.pieces layout
  | .classConstructor params => Param.texts layout params
  | .interface _ _ bases typeParams => bases ++ typeParams
  | .interfaceProperty name type _ _ => [name, type]
  | .interfaceIndexer _ keyType valueType _ => [keyType, valueType]
  | .classes _ superName _ typeParams superArguments _ =>
    typeParams ++ if superName.isSome then superArguments else []
  | .implemented _ arguments => arguments
  | .classProperty name type _ => [name, type]
  | _ => []

section

variable {layout : Layout} {piece : String}

theorem Layout.within_params {params : List Param} (h : piece ∈ Param.texts layout params) :
    Text.Within piece (layout.params params) :=
  within_commaList h

theorem Signature.mem_pieces {signature : Signature} :
    piece ∈ signature.pieces layout ↔ signature.name = some piece ∨
      piece ∈ signature.typeParams ∨ piece ∈ Param.texts layout signature.params ∨
      signature.result = some piece := by
  simp [pieces]

theorem Layout.within_signature {signature : Signature} (h : piece ∈ signature.pieces layout) :
    Text.Within piece (layout.signature signature) := by
  unfold Layout.signature
  rcases Signature.mem_pieces.mp h with hname | htypeParam | hparam | hresult
  · rw [hname, Option.getD_some]
    refine .append_right (.append_right (.append_right (.append_right ?_ _) _) _) _
    exact (Text.Within.refl piece).append_right _
  · refine .append_right (.append_right (.append_right (.append_right ?_ _) _) _) _
    exact (within_generics htypeParam).append_left _
  · refine .append_right (.append_right ?_ _) _
    exact (Layout.within_params hparam).append_left _
  · rw [hresult]
    exact ((Text.Within.refl piece).append_left _).append_left _

theorem Layout.within_interfaceMethod {signature : Signature} {isStatic isOptional : Bool}
    (h : piece ∈ (DeclarationForm.interfaceMethod signature isStatic isOptional).pieces layout) :
    Text.Within piece (layout.interfaceMethod signature isStatic isOptional) := by
  refine .append_left ?_ (staticMark isStatic)
  cases isOptional with
  | false =>
      rw [if_neg Bool.false_ne_true]
      exact (Layout.within_signature h).append_right _
  | true =>
      rw [if_pos rfl]
      refine .append_right ?_ _
      rcases Signature.mem_pieces.mp h with hname | htypeParam | hparam | hresult
      · refine .append_right (.append_right (.append_right (.append_right ?_ _) _) _) _
        exact hname ▸ .refl piece
      · cases htypeParam
      · refine .append_right (.append_right ?_ _) _
        exact (Layout.within_params hparam).append_left _
      · refine .append_left ?_ _
        exact hresult ▸ .refl piece

theorem within_quotes {opening closing : String} (lead value follow : String)
    (hopening : opening = lead ++ "'") (hclosing : closing = "'" ++ follow) :
    Text.Within (Text.inQuotes value) (opening ++ value ++ closing) := by
  have h := ((Text.Within.refl (Text.inQuotes value)).append_left lead).append_right follow
  rw [Text.inQuotes] at h ⊢
  rw [hopening, hclosing]
  simpa only [String.append_assoc] using h

theorem within_block_head (body : String) {head : String} (h : Text.Within piece head) :
    Text.Within piece (block head body) := by
  unfold block
  split
  · exact h.append_right _
  · exact ((h.append_right _).append_right _).append_right _

theorem Layout.within_interfaceHead {name : String} {bases typeParams : List String}
    (h : piece ∈ bases ++ typeParams) :
    Text.Within piece (Layout.interfaceHead name bases typeParams) := by
  rcases List.mem_append.mp h with hbase | htypeParam
  · refine .append_left ?_ _
    rw [if_neg (List.ne_nil_of_mem hbase)]
    exact (within_commaList hbase).append_left _
  · exact ((within_generics htypeParam).append_left _).append_right _

theorem Layout.within_classHead {name : String} {superName : Option String}
    {typeParams superArguments implemented : List String}
    (h : piece ∈ (typeParams ++ if superName.isSome then superArguments else []) ++ implemented) :
    Text.Within piece
      (Layout.classHead name superName typeParams superArguments implemented) := by
  rcases List.mem_append.mp h with hown | himplemented
  · refine .append_right ?_ _
    rcases List.mem_append.mp hown with htypeParam | hsuper
    · exact ((within_generics htypeParam).append_left _).append_right _
    · refine .append_left ?_ _
      cases superName with
      | none => cases hsuper
      | some superName => exact (within_generics hsuper).append_left _
  · refine .append_left ?_ _
    rw [if_neg (List.ne_nil_of_mem himplemented)]
    exact (within_commaList himplemented).append_left _

theorem DeclarationForm.within_of_mem_pieces {form : DeclarationForm}
    (h : piece ∈ form.pieces layout) : Text.Within piece (form.text layout) := by
  cases form with
  | module name children =>
      rw [text]
      by_cases hambient : layout.suppressAmbient = true
      · rw [pieces, if_pos hambient] at h
        cases h
      · rw [pieces, if_neg hambient] at h
        rw [if_neg hambient]
        obtain rfl := List.mem_singleton.mp h
        exact within_block_head _ (within_quotes "declare module " name "" rfl rfl)
  | effectImport source =>
      obtain rfl := List.mem_singleton.mp h
      exact within_quotes "import " source ";" rfl rfl
  | imports enclosed specifiers source =>
      obtain rfl := List.mem_singleton.mp h
      simp only [text, Layout.imports, String.append_assoc]
      refine .append_left (.append_left ?_ _) _
      rw [← String.append_assoc]
      exact within_quotes " from " source ";" rfl rfl
  | exportAll source =>
      obtain rfl := List.mem_singleton.mp h
      exact within_quotes "export * from " source ";" rfl rfl
  | exportList specifiers source =>
      cases source with
      | none => cases h
      | some source =>
          obtain rfl := List.mem_singleton.mp h
          exact (within_quotes " from " source ";" rfl rfl).append_left _
  | declarator name type =>
      obtain rfl := List.mem_singleton.mp h
      exact (Text.Within.refl piece).append_left _
  | function signature => exact (Layout.within_signature h).append_left _
  | interfaceMethod signature isStatic isOptional => exact Layout.within_interfaceMethod h
  | interfaceCall signature => exact (Layout.within_signature h).append_right _
  | classMethod signature isStatic =>
      exact ((Layout.within_signature h).append_left _).append_right _
  | classConstructor params => exact ((Layout.within_params h).append_left _).append_right _
  | interface name members bases typeParams =>
      exact within_block_head _ (Layout.within_interfaceHead h)
  | interfaceProperty name type isStatic isOptional =>
      rcases List.mem_pair.mp h with rfl | rfl
      · refine .append_right (.append_right (.append_right (.append_right ?_ _) _) _) _
        exact (Text.Within.refl piece).append_left _
      · exact ((Text.Within.refl piece).append_left _).append_right _
  | interfaceIndexer name keyType valueType isStatic =>
      rcases List.mem_pair.mp h with rfl | rfl
      · refine .append_right (.append_right (.append_right ?_ _) _) _
        exact (Text.Within.refl piece).append_left _
      · exact ((Text.Within.refl piece).append_left _).append_right _
  | classes name superName members typeParams superArguments implemented =>
      exact within_block_head _ (Layout.within_classHead (List.mem_append_left _ h))
  | implemented name arguments => exact (within_generics h).append_left _
  | classProperty name type isStatic =>
      rcases List.mem_pair.mp h with rfl | rfl
      · refine .append_right (.append_right (.append_right ?_ _) _) _
        exact (Text.Within.refl piece).append_left _
      · exact ((Text.Within.refl piece).append_left _).append_right _
  | _ => cases h

end

section

variable {layout : Layout} {text : String} {texts : List String}

theorem Declaration.within_text (d : Declaration) :
    Text.Within (d.form.text layout) (d.text layout) := by
  rw [Declaration.text_eq]
  exact (Text.Within.refl _).append_left _

/-- A declarator stands behind the others, one step further in unless it is the first. -/
theorem Layout.within_declarators (hstep : ∀ c ∈ layout.declaratorStep.toList, c = ' ')
    (h : text ∈ texts) : Text.Within text (layout.declarators texts) := by
  by_cases hempty : text = ""
  · rw [hempty]
    exact (Text.Within.refl "").of_empty _
  · have hmem : text ∈ texts.filter (· ≠ "") := List.mem_filter.mpr ⟨h, by simpa using hempty⟩
    unfold Layout.declarators
    split
    next hnil =>
        rw [hnil] at hmem
        cases hmem
    next first rest hsplit =>
        rw [hsplit] at hmem
        rcases List.mem_cons.mp hmem with rfl | hrest
        · exact .intercalate _ List.mem_cons_self
        · refine (Text.Within.indent hstep text).trans (.intercalate _ ?_)
          exact List.mem_cons_of_mem _ (List.mem_map_of_mem hrest)

/-- The declarations inside a form stand within its text. An import has to be written with all
its specifiers. -/
theorem DeclarationForm.within_of_mem_parts (hstep : ∀ c ∈ layout.step.toList, c = ' ')
    (hdeclarator : ∀ c ∈ layout.declaratorStep.toList, c = ' ') {form : DeclarationForm}
    (hwrites : form.WritesSpecifiers) {part : Declaration} (h : part ∈ form.parts) :
    Text.Within (part.form.text layout) (form.text layout) := by
  have htext {declarations : List Declaration} (hmem : part ∈ declarations) :
      part.text layout ∈ Declaration.texts layout declarations := by
    rw [Declaration.texts_eq_map]
    exact List.mem_map_of_mem hmem
  cases form with
  | module name children =>
      refine part.within_text.trans ?_
      unfold DeclarationForm.text
      split
      · exact .intercalate _ (htext h)
      · exact within_block _ (Layout.within_body hstep _ (htext h))
  | imports enclosed specifiers source =>
      obtain ⟨bare, named, rfl, hall⟩ := hwrites
      rw [hall]
      refine .append_right (.append_right (.append_right (.append_left ?_ _) _) _) _
      refine part.within_text.trans ?_
      rcases List.mem_append.mp h with hbare | hnamed
      · exact within_commaList (List.mem_append_left _ (List.mem_map_of_mem hbare))
      · rw [if_neg (List.ne_nil_of_mem hnamed)]
        refine Text.Within.trans ?_
          (within_commaList (List.mem_append_right _ (List.mem_singleton.mpr rfl)))
        refine .append_right (.append_left ?_ _) _
        exact within_commaList (List.mem_map_of_mem hnamed)
  | exported declaration =>
      obtain rfl := List.mem_singleton.mp h
      obtain ⟨comments, form⟩ := part
      -- The comments of what is exported stand in front of `export`, not of its own text.
      exact ((Text.Within.refl (form.text layout)).append_left _).append_right _
  | exportList specifiers source =>
      refine .append_right (.append_right (.append_left ?_ _) _) _
      exact part.within_text.trans (Layout.within_body hstep _ (htext h))
  | «variables» keyword declarators =>
      refine .append_left ?_ _
      exact part.within_text.trans (Layout.within_declarators hdeclarator (htext h))
  | interface name members bases typeParams =>
      exact part.within_text.trans (within_block _ (Layout.within_body hstep _ (htext h)))
  | classes name superName members typeParams superArguments implemented =>
      rcases List.mem_append.mp h with hmember | himplemented
      · refine part.within_text.trans (within_block _ ?_)
        exact Layout.within_body hstep _ (htext hmember)
      · -- What a class implements is written in its head, without comments.
        refine within_block_head _ (Layout.within_classHead (List.mem_append_right _ ?_))
        rw [Declaration.bareTexts_eq_map]
        exact List.mem_map_of_mem himplemented
  | _ => cases h

/-- A declaration shows a text, in what it is made of or in a declaration inside it. -/
inductive Declaration.Shows (layout : Layout) (text : String) : Declaration → Prop
  | here {d : Declaration} {piece : String} (hpiece : piece ∈ d.form.pieces layout)
      (h : Text.Within text piece) : Declaration.Shows layout text d
  | inside {d part : Declaration} (hpart : part ∈ d.form.parts)
      (h : Declaration.Shows layout text part) : Declaration.Shows layout text d

theorem Declaration.within_of_shows (hstep : ∀ c ∈ layout.step.toList, c = ' ')
    (hdeclarator : ∀ c ∈ layout.declaratorStep.toList, c = ' ') {d : Declaration}
    (hwrites : d.Everywhere DeclarationForm.WritesSpecifiers) (h : d.Shows layout text) :
    Text.Within text (d.form.text layout) := by
  induction h with
  | here hpiece h => exact h.trans (DeclarationForm.within_of_mem_pieces hpiece)
  | inside hpart _ ih =>
      obtain ⟨here, inside⟩ := hwrites
      exact (ih (inside _ hpart)).trans
        (DeclarationForm.within_of_mem_parts hstep hdeclarator here hpart)

end

end Ambient
