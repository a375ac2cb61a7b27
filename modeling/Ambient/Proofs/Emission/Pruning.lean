import Ambient.Proofs.Emission.Omission

namespace Ambient

/-!
# A filter is a pruning of the syntax tree

To emit a statement under a filter is to delete from it what the filter excludes
by name and to emit what remains without any filter. What counts as empty is
then decided by what remains.
-/

namespace Statement

/-- A statement without everything that a filter excludes by name: functions,
classes and interfaces, declarators, export specifiers by either name, class
members other than constructors, and interface properties. -/
def prune (filter : MemberFilter) (statement : Statement) : Option Statement :=
  statement.without filter filter.excludesMember

/-- Nothing is excluded from what is left. -/
theorem prune_of_prune {filter : MemberFilter} {statement kept : Statement}
    (h : statement.prune filter = some kept) : kept.prune filter = some kept := by
  unfold prune at *
  match statement with
  | .exportNamed origin (some inner) specifiers source =>
      rw [without, Option.map_eq_some_iff] at h
      obtain ⟨inner', hinner, rfl⟩ := h
      have ih : inner'.without filter filter.excludesMember = some inner' := prune_of_prune hinner
      simp [without, ih]
  | .exportDefault origin (some inner) =>
      rw [without, Option.map_eq_some_iff] at h
      obtain ⟨inner', hinner, rfl⟩ := h
      have ih : inner'.without filter filter.excludesMember = some inner' := prune_of_prune hinner
      simp [without, ih]
  | .exportNamed origin none specifiers source =>
      cases h
      simp [without]
  | .exportDefault origin none =>
      cases h
      rfl
  | .variables d =>
      cases h
      simp [without]
  | .function d =>
      rw [without] at h
      split at h
      · cases h
      next hid =>
          cases h
          rw [without, if_neg hid]
  | .classes d =>
      rw [without] at h
      split at h
      · cases h
      next hid =>
          cases h
          rw [without, if_neg hid]
          simp
  | .interface d =>
      rw [without] at h
      split at h
      · cases h
      next hid =>
          cases h
          rw [without, if_neg hid]
          simp
  | .imports d =>
      cases h
      rfl
  | .exportAll d =>
      cases h
      rfl
  | .unsupported kind origin =>
      cases h
      rfl

end Statement

namespace Options

/-- Whatever a statement is declared as under a filter, the pruned statement is
declared as without one, and a statement of which nothing is left is not
declared. -/
theorem declaration_prune (options : Options) (root : String) (statement : Statement)
    (declared : Option Declaration)
    (h : (options.declaration root statement).result = .ok declared) :
    match statement.prune options.filter with
    | none => declared = none
    | some kept =>
      kept.prune options.filter = some kept ∧
        ((options.filtering .keepAll).declaration root kept).result = .ok declared := by
  have hwhole : (options.declaration root statement).result =
      (statement.prune options.filter).elim (.ok none) fun kept =>
        ((options.filtering .keepAll).declaration root kept).result := by
    rcases declaration_without options.filter.keepAll_looserThan
        options.filter.droppable_excludesMember root statement with hsame | ⟨e, _, hfail⟩
    · exact hsame
    · rw [h] at hfail
      cases hfail
  rw [h] at hwhole
  cases hkept : statement.prune options.filter with
  | none =>
      rw [hkept] at hwhole
      exact Except.ok.inj hwhole
  | some kept =>
      rw [hkept] at hwhole
      exact ⟨Statement.prune_of_prune hkept, hwhole.symm⟩

/-- A name that is not annotated. -/
def plainName (text : String) : Identifier := ⟨{}, text, none, false⟩

def plainMethod (kind : MethodKind) (name : String) (params : List Pattern) : ClassMember :=
  .method ⟨{}, .identifier (plainName name), kind, false, false, params, none, [], []⟩

def plainClass (members : List ClassMember) : Statement :=
  .classes ⟨{}, some (plainName "C"), none, [], [], [], members, []⟩

/-- Options with a filter for names with a leading underscore. -/
def hidingUnderscores : Options :=
  { filter := .predicate fun name => name.toList.head? = some '_' }

/-- An exported class in which some names have a leading underscore. -/
def classWithUnderscores : Statement :=
  .exportNamed {} (some (plainClass
    [plainMethod .method "_m" [], plainMethod .constructor "_c" [], plainMethod .get "a" [],
      plainMethod .set "a" [], plainMethod .get "_g" []])) [] none

/-- The same class without the members that are excluded. -/
def classWithoutUnderscores : Statement :=
  .exportNamed {} (some (plainClass
    [plainMethod .constructor "_c" [], plainMethod .get "a" [], plainMethod .set "a" []])) [] none

/-- Its declaration: a constructor and the property of the getter. -/
def declaredClass : Declaration :=
  ⟨[], .exported ⟨[], .classes "C" none
    [⟨[], .classConstructor []⟩, ⟨[], .classProperty "a" "any" false⟩] [] [] []⟩⟩

theorem declaration_prune_exported_class :
    (hidingUnderscores.declaration "pkg" classWithUnderscores).result =
        .ok (some declaredClass) ∧
      classWithUnderscores.prune hidingUnderscores.filter = some classWithoutUnderscores ∧
      classWithoutUnderscores.prune hidingUnderscores.filter = some classWithoutUnderscores ∧
      ((hidingUnderscores.filtering .keepAll).declaration "pkg" classWithoutUnderscores).result =
        .ok (some declaredClass) := by
  have hok : (hidingUnderscores.declaration "pkg" classWithUnderscores).result =
      .ok (some declaredClass) := by rfl
  have hkept : classWithUnderscores.prune hidingUnderscores.filter =
      some classWithoutUnderscores := by rfl
  have h := declaration_prune hidingUnderscores "pkg" classWithUnderscores _ hok
  rw [hkept] at h
  exact ⟨hok, hkept, h⟩

end Options

end Ambient
