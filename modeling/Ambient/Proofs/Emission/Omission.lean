import Ambient.Proofs.Emission.Result

namespace Ambient

/-!
# What is left out by name

A statement can be cut down before it is emitted: whatever a filter excludes by
name is deleted from it, with some of its class members. The declaration of what
remains is the declaration of the whole, unless a deleted method has a parameter
whose type cannot be written: parameters are looked at first.
-/

namespace MemberFilter

variable (filter : MemberFilter)

/-- Whether a member is excluded by its name. -/
def excludesKey (key : PropertyKey) : Bool := key.name?.any filter.excludes

def excludesId (id : Option Identifier) : Bool := id.any fun id => filter.excludes id.name

/-- A specifier is excluded by either of its names. -/
def excludesSpecifier : ExportSpecifier → Bool
  | .named _ bound exported => filter.excludes exported.name || filter.excludes bound.name
  | .unsupported _ => false

def excludesDeclarator (declarator : Declarator) : Bool :=
  match declarator.id with
  | .identifier id => filter.excludes id.name
  | _ => false

/-- A constructor is never excluded. -/
def excludesMember : ClassMember → Bool
  | .method member => member.kind ≠ .constructor && filter.excludesKey member.key
  | .property member => filter.excludesKey member.key
  | .unsupported _ => false

def excludesProperty : ObjectMember → Bool
  | .property member => filter.excludesKey member.key
  | .unsupported _ => false

/-- Whether a class member never comes into a document: it is excluded, or it is
a setter. -/
def leavesOut : ClassMember → Bool
  | .method member => member.kind ≠ .constructor &&
      (member.kind = .set || filter.excludesKey member.key)
  | .property member => filter.excludesKey member.key
  | .unsupported _ => false

theorem leavesOut_of_excludesMember {member : ClassMember}
    (h : filter.excludesMember member = true) : filter.leavesOut member = true := by
  cases member with
  | method member =>
      simp only [excludesMember, Bool.and_eq_true] at h
      simp [leavesOut, h.1, h.2]
  | property member => exact h
  | unsupported kind => exact h

/-- Whether a filter excludes no more than another one. -/
def LooserThan (filter stricter : MemberFilter) : Prop :=
  ∀ name, filter.excludes name = true → stricter.excludes name = true

theorem LooserThan.refl : filter.LooserThan filter := fun _ h => h

theorem keepAll_looserThan : keepAll.LooserThan filter := by
  intro name h
  simp at h

theorem LooserThan.excludes_eq_false {filter stricter : MemberFilter}
    (hloose : filter.LooserThan stricter) {name : String}
    (h : stricter.excludes name = false) : filter.excludes name = false := by
  cases hname : filter.excludes name with
  | false => rfl
  | true => simp [hloose name hname] at h

/-- Class members that can be deleted: all that the filter excludes, and none that
would come into a document. -/
structure Droppable (drops : ClassMember → Bool) : Prop where
  left : ∀ member, drops member = true → filter.leavesOut member = true
  excluded : ∀ member, filter.excludesMember member = true → drops member = true

theorem droppable_excludesMember : filter.Droppable filter.excludesMember where
  left := fun _ h => filter.leavesOut_of_excludesMember h
  excluded := fun _ h => h

theorem droppable_leavesOut : filter.Droppable filter.leavesOut where
  left := fun _ h => h
  excluded := fun _ h => filter.leavesOut_of_excludesMember h

end MemberFilter

/-- A method among the dropped class members has a parameter whose type cannot be
written. -/
def FailsByDropped (drops : ClassMember → Bool) (members : List ClassMember)
    (e : UnsupportedType) : Prop :=
  ∃ method, .method method ∈ members ∧ drops (.method method) = true ∧
    (Pattern.params method.params).result = .error e

namespace Statement

/-- A statement without what a filter excludes by name and without the class
members that `drops` names. Nothing may remain, and then an export around it is
deleted with it. -/
def without (filter : MemberFilter) (drops : ClassMember → Bool) : Statement → Option Statement
  | .exportNamed origin (some inner) specifiers source =>
    (inner.without filter drops).map fun inner =>
      .exportNamed origin (some inner) (specifiers.filter (!filter.excludesSpecifier ·)) source
  | .exportNamed origin none specifiers source =>
    some (.exportNamed origin none (specifiers.filter (!filter.excludesSpecifier ·)) source)
  | .exportDefault origin (some inner) =>
    (inner.without filter drops).map fun inner => .exportDefault origin (some inner)
  | .variables d =>
    some (.variables
      { d with declarators := d.declarators.filter (!filter.excludesDeclarator ·) })
  | .function d => if filter.excludesId d.id then none else some (.function d)
  | .classes d =>
    if filter.excludesId d.id then none
    else some (.classes { d with members := d.members.filter (!drops ·) })
  | .interface d =>
    if filter.excludes d.id.name then none
    else some (.interface
      { d with body :=
        { d.body with properties := d.body.properties.filter (!filter.excludesProperty ·) } })
  | statement => some statement

/-- The members of the class that a statement declares or exports. -/
def classMembers : Statement → List ClassMember
  | .exportNamed _ (some inner) _ _ => inner.classMembers
  | .classes d => d.members
  | _ => []

end Statement

namespace Options

variable (options : Options)

/-- The same options with another filter. -/
def filtering (filter : MemberFilter) : Options := { options with filter := filter }

theorem isExcluded_result (name : String) :
    (options.isExcluded name).result = .ok (options.filter.excludes name) := by
  unfold isExcluded
  cases h : options.filter.excludes name <;> rfl

theorem isExcluded_of_kept {name : String} (h : options.filter.excludes name = false) :
    options.isExcluded name = pure false := by
  simp [isExcluded, h]

theorem memberName_of_excluded {key : PropertyKey} (h : options.filter.excludesKey key = true)
    (computed : Bool) : (options.memberName key computed).result = .ok none := by
  cases key with
  | identifier id =>
      have hname : options.filter.excludes id.name = true := by
        simpa [MemberFilter.excludesKey, PropertyKey.name?] using h
      simp [memberName, isExcluded_result, hname]
  | string literal =>
      have hname : options.filter.excludes literal.value = true := by
        simpa [MemberFilter.excludesKey, PropertyKey.name?] using h
      simp [memberName, isExcluded_result, hname]
  | unsupported kind => rfl

section Kept

variable {options} {filter : MemberFilter} (hloose : filter.LooserThan options.filter)

include hloose

theorem isExcluded_filtering {name : String} (h : options.filter.excludes name = false) :
    (options.filtering filter).isExcluded name = pure false :=
  isExcluded_of_kept _ (hloose.excludes_eq_false h)

theorem memberName_of_kept {key : PropertyKey} (h : options.filter.excludesKey key = false)
    (computed : Bool) :
    options.memberName key computed = (options.filtering filter).memberName key computed := by
  cases key with
  | identifier id =>
      have hname : options.filter.excludes id.name = false := by
        simpa [MemberFilter.excludesKey, PropertyKey.name?] using h
      simp [memberName, isExcluded_of_kept _ hname, isExcluded_filtering hloose hname]
  | string literal =>
      have hname : options.filter.excludes literal.value = false := by
        simpa [MemberFilter.excludesKey, PropertyKey.name?] using h
      simp [memberName, isExcluded_of_kept _ hname, isExcluded_filtering hloose hname]
  | unsupported kind => rfl

theorem classMember_of_kept {member : ClassMember}
    (h : options.filter.excludesMember member = false) :
    options.classMember member = (options.filtering filter).classMember member := by
  cases member with
  | method member =>
      by_cases hkind : member.kind = .constructor
      · simp [classMember, classMethod, hkind]
      · have hkey : options.filter.excludesKey member.key = false := by
          simpa [MemberFilter.excludesMember, hkind] using h
        simp only [classMember, classMethod, memberName_of_kept hloose hkey]
  | property member =>
      simp only [classMember, classProperty, memberName_of_kept hloose h]
  | unsupported kind => rfl

theorem interfaceMember_of_kept {member : ObjectMember}
    (h : options.filter.excludesProperty member = false) :
    options.interfaceMember member = (options.filtering filter).interfaceMember member := by
  cases member with
  | property member =>
      simp only [interfaceMember, interfaceProperty, memberName_of_kept hloose h]
  | unsupported kind => rfl

theorem exportSpecifier_of_kept {specifier : ExportSpecifier}
    (h : options.filter.excludesSpecifier specifier = false) :
    options.exportSpecifier specifier = (options.filtering filter).exportSpecifier specifier := by
  cases specifier with
  | named origin bound exported =>
      simp only [MemberFilter.excludesSpecifier, Bool.or_eq_false_iff] at h
      simp [exportSpecifier, isExcluded_of_kept _ h.1, isExcluded_of_kept _ h.2,
        isExcluded_filtering hloose h.1, isExcluded_filtering hloose h.2]
  | unsupported kind => rfl

theorem declarator_of_kept {declarator : Declarator}
    (h : options.filter.excludesDeclarator declarator = false) :
    options.declarator declarator = (options.filtering filter).declarator declarator := by
  unfold Options.declarator
  split
  next id hid =>
      have hname : options.filter.excludes id.name = false := by
        simpa [MemberFilter.excludesDeclarator, hid] using h
      simp [isExcluded_of_kept _ hname, isExcluded_filtering hloose hname]
  next => rfl

end Kept

section Excluded

theorem exists_memberName (key : PropertyKey) (computed : Bool) :
    ∃ name, (options.memberName key computed).result = .ok name := by
  cases h : options.filter.excludesKey key with
  | true => exact ⟨none, options.memberName_of_excluded h computed⟩
  | false =>
      rw [memberName_of_kept (MemberFilter.keepAll_looserThan _) h]
      cases key <;> exact ⟨_, rfl⟩

variable {options}

/-- What is left of a method that is left out: its parameters. -/
theorem classMethod_of_left {method : ClassMethod}
    (h : options.filter.leavesOut (.method method) = true) :
    (options.classMethod method).result =
      (Pattern.params method.params).result.map fun _ => none := by
  simp only [MemberFilter.leavesOut, Bool.and_eq_true, Bool.or_eq_true, decide_eq_true_eq] at h
  obtain ⟨hkind, hleft⟩ := h
  cases hparams : (Pattern.params method.params).result with
  | error e =>
      simp only [classMethod, Traced.bind_result, hparams]
      rfl
  | ok params =>
      obtain ⟨name, hname⟩ := options.exists_memberName method.key method.computed
      cases params with
      | none =>
          simp only [classMethod, Traced.bind_result, hparams]
          rfl
      | some params =>
          rcases hleft with hset | hkey
          · simp only [classMethod, Traced.bind_result, hparams, Written.ok_bind, if_neg hkind,
              hname]
            cases name with
            | none => rfl
            | some name =>
                rw [hset]
                rfl
          · simp only [classMethod, Traced.bind_result, hparams, Written.ok_bind, if_neg hkind,
              options.memberName_of_excluded hkey]
            rfl

theorem classProperty_of_left {property : ClassProperty}
    (h : options.filter.excludesKey property.key = true) :
    (options.classProperty property).result = .ok none := by
  simp only [classProperty, Traced.bind_result, options.memberName_of_excluded h]
  rfl

/-- A class member that is left out is never declared. -/
theorem eq_none_of_left {member : ClassMember} (h : options.filter.leavesOut member = true)
    {b : Option Declaration} (hb : (options.classMember member).result = .ok b) : b = none := by
  cases member with
  | method method =>
      rw [classMember, classMethod_of_left h] at hb
      cases hparams : (Pattern.params method.params).result with
      | error e =>
          rw [hparams] at hb
          cases hb
      | ok params =>
          rw [hparams] at hb
          exact (Except.ok.inj hb).symm
  | property property =>
      rw [classMember, classProperty_of_left h] at hb
      exact (Except.ok.inj hb).symm
  | unsupported kind => simp [MemberFilter.leavesOut] at h

/-- The one way in which a class member that is left out can fail. -/
theorem params_of_left_of_error {member : ClassMember}
    (h : options.filter.leavesOut member = true) {e : UnsupportedType}
    (he : (options.classMember member).result = .error e) :
    ∃ method, member = .method method ∧ (Pattern.params method.params).result = .error e := by
  cases member with
  | method method =>
      refine ⟨method, rfl, ?_⟩
      rw [classMember, classMethod_of_left h] at he
      cases hparams : (Pattern.params method.params).result with
      | error e' =>
          rw [hparams] at he
          cases he
          rfl
      | ok params =>
          rw [hparams] at he
          cases he
  | property property =>
      rw [classMember, classProperty_of_left h] at he
      cases he
  | unsupported kind => simp [MemberFilter.leavesOut] at h

theorem interfaceMember_of_excluded {member : ObjectMember}
    (h : options.filter.excludesProperty member = true) :
    (options.interfaceMember member).result = .ok none := by
  cases member with
  | property member =>
      simp only [interfaceMember, interfaceProperty, Traced.bind_result,
        options.memberName_of_excluded h]
      rfl
  | unsupported kind => simp [MemberFilter.excludesProperty] at h

theorem exportSpecifier_of_excluded {specifier : ExportSpecifier}
    (h : options.filter.excludesSpecifier specifier = true) :
    (options.exportSpecifier specifier).result = .ok none := by
  cases specifier with
  | named origin bound exported =>
      simp only [MemberFilter.excludesSpecifier, Bool.or_eq_true] at h
      simp only [exportSpecifier, Traced.bind_result, isExcluded_result]
      cases hexported : options.filter.excludes exported.name with
      | true => rfl
      | false =>
          have hbound : options.filter.excludes bound.name = true := by
            simpa [hexported] using h
          simp only [Written.ok_bind, Bool.false_eq_true, if_false, Traced.bind_result,
            isExcluded_result, hbound]
          rfl
  | unsupported kind => simp [MemberFilter.excludesSpecifier] at h

theorem declarator_of_excluded {declarator : Declarator}
    (h : options.filter.excludesDeclarator declarator = true) :
    (options.declarator declarator).result = .ok none := by
  unfold MemberFilter.excludesDeclarator at h
  split at h
  next id hid =>
      simp only [Options.declarator, hid, Traced.bind_result, isExcluded_result, h]
      rfl
  next => cases h

theorem function_of_excluded {d : FunctionDeclaration}
    (h : options.filter.excludesId d.id = true) : (options.function d).result = .ok none := by
  cases hid : d.id with
  | none => simp [MemberFilter.excludesId, hid] at h
  | some id =>
      have hname : options.filter.excludes id.name = true := by
        simpa [MemberFilter.excludesId, hid] using h
      simp only [Options.function, hid, Traced.bind_result, isExcluded_result, hname]
      rfl

theorem classes_of_excluded {d : ClassDeclaration}
    (h : options.filter.excludesId d.id = true) : (options.classes d).result = .ok none := by
  cases hid : d.id with
  | none => simp [MemberFilter.excludesId, hid] at h
  | some id =>
      have hname : options.filter.excludes id.name = true := by
        simpa [MemberFilter.excludesId, hid] using h
      simp only [Options.classes, hid, Traced.bind_result, isExcluded_result, hname]
      rfl

theorem interface_of_excluded {d : InterfaceDeclaration}
    (h : options.filter.excludes d.id.name = true) :
    (options.interface d).result = .ok none := by
  simp only [Options.interface, Traced.bind_result, isExcluded_result, h]
  rfl

end Excluded

section Containers

variable {options} {filter : MemberFilter} (hloose : filter.LooserThan options.filter)

include hloose

theorem exportList_without (root : String) (origin : Origin)
    (specifiers : List ExportSpecifier) (source : Option StringLiteral) :
    (options.exportList root origin specifiers source).result =
      ((options.filtering filter).exportList root origin
        (specifiers.filter (!options.filter.excludesSpecifier ·)) source).result := by
  have hkeep := Traced.keep_filter_of_ok options.exportSpecifier
    (options.filtering filter).exportSpecifier (!options.filter.excludesSpecifier ·) specifiers
    (fun a ha => by rw [exportSpecifier_of_kept hloose (by simpa using ha)])
    (fun a ha => exportSpecifier_of_excluded (by simpa using ha))
  simp only [exportList, Traced.bind_result]
  rw [hkeep]

theorem variableList_without (d : VariableDeclaration) :
    (options.variableList d).result =
      ((options.filtering filter).variableList
        { d with declarators :=
          d.declarators.filter (!options.filter.excludesDeclarator ·) }).result := by
  have hkeep := Traced.keep_filter_of_ok options.declarator
    (options.filtering filter).declarator (!options.filter.excludesDeclarator ·) d.declarators
    (fun a ha => by rw [declarator_of_kept hloose (by simpa using ha)])
    (fun a ha => declarator_of_excluded (by simpa using ha))
  simp only [variableList, Traced.bind_result]
  rw [hkeep]

theorem function_of_kept {d : FunctionDeclaration}
    (h : options.filter.excludesId d.id = false) :
    options.function d = (options.filtering filter).function d := by
  cases hid : d.id with
  | none => simp [Options.function, hid]
  | some id =>
      have hname : options.filter.excludes id.name = false := by
        simpa [MemberFilter.excludesId, hid] using h
      simp only [Options.function, hid, isExcluded_of_kept _ hname,
        isExcluded_filtering hloose hname]

theorem interface_without {d : InterfaceDeclaration}
    (h : options.filter.excludes d.id.name = false) :
    (options.interface d).result =
      ((options.filtering filter).interface
        { d with body :=
          { d.body with
            properties :=
              d.body.properties.filter (!options.filter.excludesProperty ·) } }).result := by
  have hkeep := Traced.keep_filter_of_ok options.interfaceMember
    (options.filtering filter).interfaceMember (!options.filter.excludesProperty ·)
    d.body.properties
    (fun a ha => by rw [interfaceMember_of_kept hloose (by simpa using ha)])
    (fun a ha => interfaceMember_of_excluded (by simpa using ha))
  simp only [Options.interface, Traced.bind_result, isExcluded_of_kept _ h,
    isExcluded_filtering hloose h, Traced.pure_result, Written.ok_bind, Bool.false_eq_true,
    if_false]
  rw [hkeep]
  rfl

variable {drops : ClassMember → Bool} (hdrops : options.filter.Droppable drops)

include hdrops

theorem keep_classMember_without (members : List ClassMember) :
    (Traced.keep options.classMember members).result =
        (Traced.keep (options.filtering filter).classMember
          (members.filter (!drops ·))).result ∨
      ∃ e, FailsByDropped drops members e ∧
        (Traced.keep options.classMember members).result = .error e := by
  have hleft : ∀ member, (!drops member) = false → options.filter.leavesOut member = true :=
    fun member h => hdrops.left member (by simpa using h)
  have hkept : ∀ member, (!drops member) = true →
      options.filter.excludesMember member = false := by
    intro member h
    cases hex : options.filter.excludesMember member with
    | false => rfl
    | true => simp [hdrops.excluded member hex] at h
  rcases Traced.keep_filter options.classMember (options.filtering filter).classMember
      (!drops ·) members (fun a ha => by rw [classMember_of_kept hloose (hkept a ha)])
      (fun a ha b hb => eq_none_of_left (hleft a ha) hb)
    with h | ⟨member, hmem, hdrop, e, hfail, hall⟩
  · exact .inl h
  · obtain ⟨method, rfl, hparams⟩ := params_of_left_of_error (hleft member hdrop) hfail
    exact .inr ⟨e, ⟨method, hmem, by simpa using hdrop, hparams⟩, hall⟩

theorem classBody_without (d : ClassDeclaration) (name : String) (superName : Option String) :
    (options.classBody d name superName).result =
        ((options.filtering filter).classBody
          { d with members := d.members.filter (!drops ·) } name superName).result ∨
      ∃ e, FailsByDropped drops d.members e ∧
        (options.classBody d name superName).result = .error e := by
  simp only [classBody, Traced.bind_result]
  rcases keep_classMember_without hloose hdrops d.members with h | ⟨e, hfails, h⟩
  · left
    rw [h]
    rfl
  · right
    refine ⟨e, hfails, ?_⟩
    rw [h]
    rfl

theorem classes_without {d : ClassDeclaration} (h : options.filter.excludesId d.id = false) :
    (options.classes d).result =
        ((options.filtering filter).classes
          { d with members := d.members.filter (!drops ·) }).result ∨
      ∃ e, FailsByDropped drops d.members e ∧ (options.classes d).result = .error e := by
  cases hid : d.id with
  | none => exact .inl (by simp [Options.classes, hid])
  | some id =>
      have hname : options.filter.excludes id.name = false := by
        simpa [MemberFilter.excludesId, hid] using h
      simp only [Options.classes, hid, isExcluded_of_kept _ hname,
        isExcluded_filtering hloose hname, Traced.bind_result, Traced.pure_result,
        Written.ok_bind, Bool.false_eq_true, if_false]
      match d.superclass with
      | some (.unsupported kind) => exact .inl rfl
      | some (.identifier base) => exact classBody_without hloose hdrops d id.name _
      | none => exact classBody_without hloose hdrops d id.name none

/-- A statement has the declaration of what is left of it when everything is
deleted that its filter excludes, or it fails by a method that is deleted.
The proof follows the exports around a declaration. -/
theorem declaration_without (root : String) (statement : Statement) :
    (options.declaration root statement).result =
        ((statement.without options.filter drops).elim (.ok none) fun kept =>
          ((options.filtering filter).declaration root kept).result) ∨
      ∃ e, FailsByDropped drops statement.classMembers e ∧
        (options.declaration root statement).result = .error e := by
  match statement with
  | .exportNamed origin (some inner) specifiers source =>
      simp only [Options.declaration, Traced.bind_result, Statement.classMembers,
        Statement.without]
      rcases declaration_without root inner with h | ⟨e, hfails, h⟩
      · left
        rw [h]
        cases inner.without options.filter drops with
        | none => rfl
        | some kept =>
            simp only [Option.elim_some, Option.map_some, Options.declaration,
              Traced.bind_result]
      · right
        refine ⟨e, hfails, ?_⟩
        rw [h]
        rfl
  | .exportNamed origin none specifiers source =>
      exact .inl (exportList_without hloose root origin specifiers source)
  | .exportDefault origin declaration =>
      left
      cases declaration with
      | none => rfl
      | some inner =>
          simp only [Statement.without]
          cases inner.without options.filter drops <;> rfl
  | .variables d => exact .inl (variableList_without hloose d)
  | .function d =>
      left
      cases h : options.filter.excludesId d.id with
      | true => simp [Statement.without, h, Options.declaration, function_of_excluded h]
      | false =>
          simp [Statement.without, h, Options.declaration, function_of_kept hloose h]
  | .classes d =>
      cases h : options.filter.excludesId d.id with
      | true =>
          left
          simp [Statement.without, h, Options.declaration, classes_of_excluded h]
      | false =>
          simpa [Statement.without, h, Options.declaration, Statement.classMembers] using
            classes_without hloose hdrops h
  | .interface d =>
      left
      cases h : options.filter.excludes d.id.name with
      | true => simp [Statement.without, h, Options.declaration, interface_of_excluded h]
      | false =>
          simpa [Statement.without, h, Options.declaration] using interface_without hloose h
  | .imports d => exact .inl rfl
  | .exportAll d => exact .inl rfl
  | .unsupported kind origin => exact .inl rfl

end Containers

end Options

end Ambient
