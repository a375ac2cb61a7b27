import Ambient.Proofs.Emission.Pruning

namespace Ambient

/-!
# What is left out has no say

Setters never come into a document, nor does anything that is excluded by name.
Whatever types are written there make no difference, with one exception: the
parameters of a method are looked at before its kind and its name, so a type
among them that cannot be written fails the module even if the method is left
out.
-/

namespace Statement

/-- A statement without what is left out of documents: what a filter excludes by
name, and setters. -/
def trim (filter : MemberFilter) (statement : Statement) : Option Statement :=
  statement.without filter filter.leavesOut

/-- A method that is left out has a parameter whose type cannot be written. -/
def FailsByLeftOut (filter : MemberFilter) (statement : Statement) (e : UnsupportedType) : Prop :=
  FailsByDropped filter.leavesOut statement.classMembers e

end Statement

/-- The members of a class are looked at: it has a name that is not excluded, and
what it extends has a name. -/
def ClassDeclaration.Reached (options : Options) (d : ClassDeclaration) : Prop :=
  ∃ id, d.id = some id ∧ options.filter.excludes id.name = false ∧
    ∀ kind, d.superclass ≠ some (.unsupported kind)

namespace Options

variable (options : Options) (root : String)

theorem declaration_trim {statement : Statement}
    (h : ∀ e, ¬ statement.FailsByLeftOut options.filter e) :
    (options.declaration root statement).result =
      (statement.trim options.filter).elim (.ok none) fun kept =>
        (options.declaration root kept).result := by
  rcases declaration_without (MemberFilter.LooserThan.refl _)
      options.filter.droppable_leavesOut root statement with hsame | ⟨e, hfails, _⟩
  · exact hsame
  · exact absurd hfails (h e)

theorem declaration_congr {s t : Statement} (hsame : s.trim options.filter = t.trim options.filter)
    (hs : ∀ e, ¬ s.FailsByLeftOut options.filter e)
    (ht : ∀ e, ¬ t.FailsByLeftOut options.filter e) :
    (options.declaration root s).result = (options.declaration root t).result := by
  rw [options.declaration_trim root hs, options.declaration_trim root ht, hsame]

theorem declarations_trim (statements : List Statement)
    (h : ∀ s ∈ statements, ∀ e, ¬ s.FailsByLeftOut options.filter e) :
    (options.declarations root statements).result =
      (options.declarations root (statements.filterMap (·.trim options.filter))).result := by
  unfold declarations
  induction statements with
  | nil => rfl
  | cons s statements ih =>
      have hrest := ih fun t ht => h t (List.mem_cons_of_mem s ht)
      rw [Traced.keep_cons_result, hrest,
        options.declaration_trim root (h s List.mem_cons_self)]
      cases htrim : s.trim options.filter with
      | none =>
          rw [List.filterMap_cons_none htrim]
          cases (Traced.keep (options.declaration root)
            (statements.filterMap (·.trim options.filter))).result <;> rfl
      | some kept =>
          rw [List.filterMap_cons_some htrim, Traced.keep_cons_result]
          rfl

theorem generate_congr (moduleId : String) {c d : Collected}
    (h : (options.declarations root c.statements).result =
      (options.declarations root d.statements).result) :
    (options.generate root moduleId c).result = (options.generate root moduleId d).result := by
  simp only [generate, module, Traced.bind_result, h]

/-- A class whose members are not looked at is not declared, whatever they are. -/
theorem classes_of_not_reached {d : ClassDeclaration} (h : ¬ d.Reached options) :
    (options.classes d).result = .ok none := by
  cases hid : d.id with
  | none => simp [Options.classes, hid]
  | some id =>
      cases hname : options.filter.excludes id.name with
      | true => exact classes_of_excluded (by simp [MemberFilter.excludesId, hid, hname])
      | false =>
          cases hd : d.superclass with
          | none => exact absurd ⟨id, hid, hname, by simp [hd]⟩ h
          | some superclass =>
              cases superclass with
              | identifier base => exact absurd ⟨id, hid, hname, by simp [hd]⟩ h
              | unsupported kind =>
                  simp [Options.classes, hid, isExcluded_of_kept _ hname, hd]

/-- A class whose members are looked at depends on them only through their
declarations. -/
theorem exists_classes_of_reached {d : ClassDeclaration} (h : d.Reached options) :
    ∃ declare : List Declaration → Written (Option Declaration), ∀ members,
      (options.classes { d with members := members }).result =
        (Traced.keep options.classMember members).result >>= declare := by
  obtain ⟨id, hid, hname, hsuper⟩ := h
  have hbody : ∀ superName, ∃ declare : List Declaration → Written (Option Declaration),
      ∀ members, (options.classBody { d with members := members } id.name superName).result =
        (Traced.keep options.classMember members).result >>= declare := by
    intro superName
    exact ⟨_, fun members => by simp only [classBody, Traced.bind_result]; rfl⟩
  cases hd : d.superclass with
  | none =>
      obtain ⟨declare, hdeclare⟩ := hbody none
      refine ⟨declare, fun members => ?_⟩
      rw [← hdeclare members]
      simp [Options.classes, hid, isExcluded_of_kept _ hname, hd]
  | some superclass =>
      cases superclass with
      | unsupported kind => exact absurd hd (hsuper kind)
      | identifier base =>
          obtain ⟨declare, hdeclare⟩ := hbody (some base.name)
          refine ⟨declare, fun members => ?_⟩
          rw [← hdeclare members]
          simp [Options.classes, hid, isExcluded_of_kept _ hname, hd]

/-- Where a method that is left out stands in a class, it can be deleted if and
only if its parameters do not fail first, or the rest fails in the same way. -/
theorem classes_delete_iff {d : ClassDeclaration} {before after : List ClassMember}
    {method : ClassMethod} (hleft : options.filter.leavesOut (.method method) = true) :
    (options.classes { d with members := before ++ .method method :: after }).result =
        (options.classes { d with members := before ++ after }).result ↔
      ∀ e, (Pattern.params method.params).result = .error e → d.Reached options →
        (∃ declared, (Traced.keep options.classMember before).result = .ok declared) →
        (options.classes { d with members := before ++ after }).result = .error e := by
  by_cases hreached : d.Reached options
  · obtain ⟨declare, hdeclare⟩ := options.exists_classes_of_reached hreached
    simp only [hdeclare, Traced.keep_append_result, Traced.keep_cons_result, classMember,
      classMethod_of_left hleft]
    cases (Traced.keep options.classMember before).result with
    | error e => simp
    | ok declared =>
        cases (Pattern.params method.params).result with
        | ok params =>
            cases (Traced.keep options.classMember after).result <;> simp [Except.map]
        | error e =>
            simp [Except.map, hreached, eq_comm]
  · have hnone : ∀ members, (options.classes { d with members := members }).result = .ok none :=
      fun members => options.classes_of_not_reached hreached
    simp [hnone, hreached]

/-- What is left out makes no difference to a declaration or to a document, be
it a result or a failure, as long as no method that is left out has a parameter
whose type cannot be written. The last part says exactly when such a method does
make a difference: when it is reached, its own failure is not that of the rest. -/
theorem left_out_changes_nothing (options : Options) (root : String) :
    (∀ s t : Statement, s.trim options.filter = t.trim options.filter →
      (∀ e, ¬ s.FailsByLeftOut options.filter e) → (∀ e, ¬ t.FailsByLeftOut options.filter e) →
      (options.declaration root s).result = (options.declaration root t).result) ∧
    (∀ (moduleId : String) (c d : Collected),
      c.statements.filterMap (·.trim options.filter) =
        d.statements.filterMap (·.trim options.filter) →
      (∀ s ∈ c.statements ++ d.statements, ∀ e, ¬ s.FailsByLeftOut options.filter e) →
      (options.generate root moduleId c).result = (options.generate root moduleId d).result) ∧
    (∀ (d : ClassDeclaration) (before after : List ClassMember) (method : ClassMethod),
      options.filter.leavesOut (.method method) = true →
      ((options.declaration root
          (.classes { d with members := before ++ .method method :: after })).result =
        (options.declaration root (.classes { d with members := before ++ after })).result ↔
      ∀ e, (Pattern.params method.params).result = .error e → d.Reached options →
        (∃ declared, (Traced.keep options.classMember before).result = .ok declared) →
        (options.declaration root (.classes { d with members := before ++ after })).result =
          .error e)) := by
  refine ⟨fun s t => options.declaration_congr root, ?_,
    fun d before after method hleft => options.classes_delete_iff hleft⟩
  intro moduleId c d hsame hfails
  apply options.generate_congr root moduleId
  rw [options.declarations_trim root c.statements fun s hs =>
      hfails s (List.mem_append_left _ hs),
    options.declarations_trim root d.statements fun s hs =>
      hfails s (List.mem_append_right _ hs), hsame]

/-- A setter with a parameter of this type. -/
def setterOf (type : FlowType) : ClassMember :=
  plainMethod .set "a" [.identifier { plainName "v" with type := some type }]

theorem not_failsByLeftOut_setterOf (type : FlowType) {text : String}
    (h : type.text = .ok text) (filter : MemberFilter) (e : UnsupportedType) :
    ¬ (plainClass [setterOf type]).FailsByLeftOut filter e := by
  rintro ⟨method, hmem, _, hfails⟩
  have hmethod : ClassMember.method method = setterOf type := by
    simpa [plainClass, Statement.classMembers] using hmem
  cases hmethod
  simp only [Pattern.params, Traced.all, Pattern.param, FlowType.text?, Traced.bind_result,
    Traced.lift_result, h] at hfails
  cases hfails

/-- Two setters that differ in the type of their parameter, no setter at all, and
a setter that fails. -/
theorem left_out_changes_nothing_setter :
    (hidingUnderscores.declaration "pkg" (plainClass [setterOf .number])).result =
        (hidingUnderscores.declaration "pkg" (plainClass [setterOf .string])).result ∧
      (hidingUnderscores.generate "pkg" "pkg/a" ⟨[], [], [plainClass [setterOf .number]]⟩).result =
        (hidingUnderscores.generate "pkg" "pkg/a" ⟨[], [], [plainClass []]⟩).result ∧
      (hidingUnderscores.declaration "pkg"
        (plainClass [setterOf (.unsupported "ExistsTypeAnnotation")])).result ≠
          (hidingUnderscores.declaration "pkg" (plainClass [])).result := by
  have hnumber := not_failsByLeftOut_setterOf .number rfl hidingUnderscores.filter
  have hstring := not_failsByLeftOut_setterOf .string rfl hidingUnderscores.filter
  have hempty : ∀ e, ¬ (plainClass []).FailsByLeftOut hidingUnderscores.filter e := by
    rintro e ⟨method, hmem, _⟩
    cases hmem
  obtain ⟨hdeclaration, hgenerate, hiff⟩ := left_out_changes_nothing hidingUnderscores "pkg"
  refine ⟨hdeclaration _ _ rfl hnumber hstring, hgenerate "pkg/a" _ _ rfl ?_, ?_⟩
  · intro s hs
    have hcases : s = plainClass [setterOf .number] ∨ s = plainClass [] := by
      simpa [Collected.statements] using hs
    rcases hcases with rfl | rfl
    · exact hnumber
    · exact hempty
  · intro hsame
    have hfail := (hiff ⟨{}, some (plainName "C"), none, [], [], [], [], []⟩ [] [] _ rfl).mp hsame
      ⟨"ExistsTypeAnnotation"⟩ rfl ⟨_, rfl, rfl, by simp⟩ ⟨[], rfl⟩
    cases hfail

/-- A setter whose parameter has a type that cannot be written is left out, and
yet its class fails, which without it has a declaration. -/
theorem setter_with_unwritten_param_fails :
    hidingUnderscores.filter.leavesOut (setterOf (.unsupported "ExistsTypeAnnotation")) = true ∧
      (hidingUnderscores.declaration "pkg"
        (plainClass [setterOf (.unsupported "ExistsTypeAnnotation")])).result =
          .error ⟨"ExistsTypeAnnotation"⟩ ∧
      (hidingUnderscores.declaration "pkg" (plainClass [])).result =
        .ok (some ⟨[], .classes "C" none [] [] [] []⟩) :=
  ⟨by rfl, by rfl, by rfl⟩

end Options

end Ambient
