import Ambient.Proofs.Emission.WellFormed
import Ambient.Proofs.Text.Lines

namespace Ambient

/-!
# How a document is put together

A document is made of the declarations of its statements, each written on its
own. The first statement that fails decides that there is no document. With a
module around them, the same lines stand one step further in.
-/

namespace Options

variable {options : Options} {root : String}

theorem not_module_of_declaration (statement : Statement) (declared : Declaration)
    (h : (options.declaration root statement).result = .ok (some declared)) :
    declared.Everywhere fun form => form.isModule = false :=
  (wellFormed_of_declaration statement declared h).imp fun _ hform => hform.isModule_eq_false

variable (options root)

/-- What is declared does not depend on how declarations are written. -/
theorem declaration_layout (path comments mark ambient : Bool) : ∀ statement : Statement,
    ({ options with
        suppressModulePath := path
        suppressComments := comments
        markUnspecified := mark
        suppressAmbient := ambient } : Options).declaration root statement =
      options.declaration root statement
  | .imports _ => rfl
  | .exportAll _ => rfl
  | .exportNamed origin (some inner) specifiers source => by
    simp only [declaration, declaration_layout path comments mark ambient inner]
  | .exportNamed _ none _ _ => rfl
  | .variables _ => rfl
  | .function _ => rfl
  | .classes _ => rfl
  | .interface _ => rfl
  | .exportDefault _ _ => rfl
  | .unsupported _ _ => rfl

/-- What each of some statements is declared as, where none of them fails. -/
def Declares (statements : List Statement) (outcomes : List (Option Declaration)) : Prop :=
  statements.map (fun s => (options.declaration root s).result) = outcomes.map .ok

theorem generate_result (moduleId : String) (collected : Collected) :
    (options.generate root moduleId collected).result = do
      let children ← (options.declarations root collected.statements).result
      return (Declaration.mk [] (.module (options.moduleName root moduleId) children)).document
        options.layout := by
  simp only [generate, module, Traced.bind_result, Traced.note_result, Written.ok_bind]
  cases (options.declarations root collected.statements).result <;> rfl

theorem generate_eq_error_iff (moduleId : String) (collected : Collected) (e : UnsupportedType) :
    (options.generate root moduleId collected).result = .error e ↔
      ∃ before s after, collected.statements = before ++ s :: after ∧
        (∀ t ∈ before, ∃ outcome, (options.declaration root t).result = .ok outcome) ∧
        (options.declaration root s).result = .error e := by
  rw [generate_result, ← Traced.keep_eq_error_iff]
  unfold declarations
  cases h : (Traced.keep (options.declaration root) collected.statements).result <;> simp

theorem generate_of_declares {moduleId : String} {collected : Collected}
    {outcomes : List (Option Declaration)}
    (h : options.Declares root collected.statements outcomes) :
    (options.generate root moduleId collected).result =
      .ok ((Declaration.mk [] (.module (options.moduleName root moduleId)
        (outcomes.filterMap id))).document options.layout) := by
  have hkept : (options.declarations root collected.statements).result =
      .ok (outcomes.filterMap id) :=
    (Traced.keep_eq_ok_iff _ _ _).mpr ⟨outcomes, h, rfl⟩
  rw [generate_result, hkept]
  rfl

theorem exists_declares_or_error (moduleId : String) (collected : Collected) :
    (∃ e, (options.generate root moduleId collected).result = .error e) ∨
      ∃ outcomes, options.Declares root collected.statements outcomes := by
  cases h : (options.declarations root collected.statements).result with
  | error e =>
      refine .inl ⟨e, ?_⟩
      rw [generate_result, h]
      rfl
  | ok children =>
      obtain ⟨outcomes, houtcomes, _⟩ := (Traced.keep_eq_ok_iff _ _ _).mp h
      exact .inr ⟨outcomes, houtcomes⟩

end Options

namespace Declaration

variable {layout : Layout} (name : String)

/-- Without a module around them declarations stand one behind the other. -/
theorem document_bare (h : layout.suppressAmbient = true) (children : List Declaration) :
    (Declaration.mk [] (.module name children)).document layout =
      "\n".intercalate (children.map (·.render layout 0)) ++ "\n" := by
  have htext : (DeclarationForm.module name children).text layout =
      "\n".intercalate (children.map (·.text layout)) := by
    simp only [DeclarationForm.text, h, if_true, texts_eq_map]
  simp only [document, text_eq, Layout.comments_nil, htext, String.empty_append, render_zero]

theorem document_ambient_nil (h : layout.suppressAmbient = false) :
    (Declaration.mk [] (.module name [])).document layout =
      "declare module '" ++ name ++ "' \x7b\n\x7d\n" := by
  have htext : (DeclarationForm.module name []).text layout =
      "declare module '" ++ name ++ "' \x7b\n\x7d" := by
    simp only [DeclarationForm.text, h, texts, Layout.body, List.map_nil,
      String.intercalate_nil, block, if_true, String.append_assoc]
    rfl
  simp only [document, text_eq, Layout.comments_nil, htext, String.empty_append, String.append_assoc]
  rfl

/-- A module stands around the lines of its children, each one step further in. -/
theorem document_ambient (h : layout.suppressAmbient = false) (hstep : layout.step ≠ "")
    {children : List Declaration} (hchildren : children ≠ []) :
    (Declaration.mk [] (.module name children)).document layout =
      "declare module '" ++ name ++ "' \x7b\n" ++
        "\n".intercalate ((Text.lines ("\n".intercalate (children.map (·.render layout 0)))).map
          (layout.step ++ ·)) ++ "\n\x7d\n" := by
  have hbody : layout.body "\n" (children.map (·.text layout)) =
      Text.indent layout.step ("\n".intercalate (children.map (·.text layout))) := by
    rw [Layout.body, Text.indent_intercalate layout.step (by simpa using hchildren)]
  -- A body without any text would be written on the line of the brace.
  have hne : Text.indent layout.step ("\n".intercalate (children.map (·.text layout))) ≠ "" := by
    intro hempty
    exact hstep (String.append_eq_empty_iff.mp hempty).1
  have htext : (DeclarationForm.module name children).text layout =
      "declare module '" ++ name ++ "' \x7b\n" ++
        Text.indent layout.step ("\n".intercalate (children.map (·.text layout))) ++
          "\n\x7d" := by
    simp only [DeclarationForm.text, h, texts_eq_map, Bool.false_eq_true, if_false]
    rw [hbody, block, if_neg hne]
    apply String.toList_inj.mp
    simp
  simp only [document, text_eq, Layout.comments_nil, htext, String.empty_append, render_zero,
    Text.indent_eq_lines]
  apply String.toList_inj.mp
  simp

end Declaration

namespace Options

variable {options : Options} {root moduleId : String} {collected : Collected}
  {outcomes : List (Option Declaration)}

theorem Declares.suppressAmbient {statements : List Statement}
    (h : options.Declares root statements outcomes) (ambient : Bool) :
    ({ options with suppressAmbient := ambient } : Options).Declares root statements outcomes := by
  simpa only [Declares, declaration_layout] using h

theorem Declares.exists_outcome {statements : List Statement}
    (h : options.Declares root statements outcomes) {s : Statement} (hs : s ∈ statements) :
    ∃ outcome, (options.declaration root s).result = .ok outcome := by
  have hmem : (options.declaration root s).result ∈
      outcomes.map (.ok : Option Declaration → Written (Option Declaration)) := by
    rw [← h]
    exact List.mem_map.mpr ⟨s, hs, rfl⟩
  obtain ⟨outcome, _, houtcome⟩ := List.mem_map.mp hmem
  exact ⟨outcome, houtcome.symm⟩

theorem Declares.map_render {statements : List Statement}
    (h : options.Declares root statements outcomes) (ambient : Bool) :
    (outcomes.filterMap id).map
        (·.render ({ options with suppressAmbient := ambient } : Options).layout 0) =
      (outcomes.filterMap id).map (·.render options.layout 0) := by
  have hkept : (Traced.keep (options.declaration root) statements).result =
      .ok (outcomes.filterMap id) := (Traced.keep_eq_ok_iff _ _ _).mpr ⟨outcomes, h, rfl⟩
  refine List.map_congr_left fun d hd => ?_
  obtain ⟨s, _, hs⟩ := Traced.exists_of_mem_keep hkept hd
  simp only [Declaration.render_zero]
  exact d.text_suppressAmbient options.layout ambient (not_module_of_declaration s d hs)

theorem generate_bare (h : options.Declares root collected.statements outcomes) :
    (({ options with suppressAmbient := true } : Options).generate root moduleId collected).result =
      .ok ("\n".intercalate ((outcomes.filterMap id).map (·.render options.layout 0)) ++ "\n") := by
  rw [generate_of_declares _ _ (h.suppressAmbient true), Declaration.document_bare _ (by rfl),
    h.map_render true]

theorem generate_ambient (h : options.Declares root collected.statements outcomes) :
    (({ options with suppressAmbient := false } : Options).generate root moduleId
        collected).result =
      .ok ("declare module '" ++ options.moduleName root moduleId ++ "' \x7b\n" ++
        (if outcomes.filterMap id = [] then "" else
          "\n".intercalate ((Text.lines ("\n".intercalate
            ((outcomes.filterMap id).map (·.render options.layout 0)))).map
              (options.layout.step ++ ·)) ++ "\n") ++ "\x7d\n") := by
  rw [generate_of_declares _ _ (h.suppressAmbient false)]
  by_cases hnone : outcomes.filterMap id = []
  · rw [if_pos hnone, hnone, Declaration.document_ambient_nil _ (by rfl)]
    apply congrArg Except.ok
    apply String.toList_inj.mp
    simp [moduleName]
  · have hstep : ({ options with suppressAmbient := false } : Options).layout.step ≠ "" := by
      simp [layout]
    rw [if_neg hnone, Declaration.document_ambient _ (by rfl) hstep hnone, h.map_render false]
    apply congrArg Except.ok
    apply String.toList_inj.mp
    simp [moduleName, layout]

/-- There is no document exactly if a listed statement fails, and the error is that
of the first one. Otherwise the document without a module around it is made of
the declarations of the statements, each written on its own, and the document
with a module has the same lines one step further in. -/
theorem generate_compositional (options : Options) (root moduleId : String)
    (collected : Collected) :
    let statements := collected.imports ++ collected.interfaces ++ collected.exports
    let bare : Options := { options with suppressAmbient := true }
    let ambient : Options := { options with suppressAmbient := false }
    (∀ e, (options.generate root moduleId collected).result = .error e ↔
      ∃ before s after, statements = before ++ s :: after ∧
        (∀ t ∈ before, ∃ outcome, (options.declaration root t).result = .ok outcome) ∧
        (options.declaration root s).result = .error e) ∧
    ((∃ e, (options.generate root moduleId collected).result = .error e) ↔
      ∃ s ∈ statements, ∃ e, (options.declaration root s).result = .error e) ∧
    ((∃ e, (options.generate root moduleId collected).result = .error e) ∨
      ∃ outcomes : List (Option Declaration),
        statements.map (fun s => (options.declaration root s).result) = outcomes.map .ok ∧
        let declared := outcomes.filterMap id
        let text := "\n".intercalate (declared.map (·.render options.layout 0))
        (bare.generate root moduleId collected).result = .ok (text ++ "\n") ∧
        (ambient.generate root moduleId collected).result =
          .ok ("declare module '" ++ options.moduleName root moduleId ++ "' \x7b\n" ++
            (if declared = [] then "" else
              "\n".intercalate ((Text.lines text).map (options.layout.step ++ ·)) ++ "\n") ++
            "\x7d\n")) := by
  intro statements bare ambient
  have hfirst := options.generate_eq_error_iff root moduleId collected
  have hdeclares := options.exists_declares_or_error root moduleId collected
  refine ⟨hfirst, ⟨?_, ?_⟩, hdeclares.imp_right ?_⟩
  · rintro ⟨e, he⟩
    obtain ⟨before, s, after, hsplit, _, hs⟩ := (hfirst e).mp he
    have hmem : s ∈ collected.statements := by simp [hsplit]
    exact ⟨s, hmem, e, hs⟩
  · rintro ⟨s, hs, e, he⟩
    rcases hdeclares with herror | ⟨outcomes, houtcomes⟩
    · exact herror
    · obtain ⟨outcome, houtcome⟩ := houtcomes.exists_outcome hs
      rw [he] at houtcome
      cases houtcome
  · rintro ⟨outcomes, houtcomes⟩
    exact ⟨outcomes, houtcomes, generate_bare houtcomes, generate_ambient houtcomes⟩

end Options

end Ambient
