import Ambient.Proofs.Emission.Parameters

namespace Ambient

/-!
# Parameter lists as a whole

A parameter list is taken over as a whole or not at all. What is looked at in its
patterns, in order, is a list of visits, and the first defect among them decides.
-/

/-- What is looked at in a pattern: an annotation that is written, or a part that no
parameter has a counterpart for. -/
inductive PatternVisit
  | typed (type : FlowType)
  | unmappable

inductive PatternDefect
  | untranslatable (error : UnsupportedType)
  | unmappable

namespace PatternVisit

def defect? : PatternVisit → Option PatternDefect
  | .typed type =>
    match type.text with
    | .ok _ => none
    | .error e => some (.untranslatable e)
  | .unmappable => some .unmappable

def IsSound (visit : PatternVisit) : Prop :=
  ∃ type text, visit = .typed type ∧ type.text = .ok text

theorem defect?_eq_none_iff {visit : PatternVisit} : visit.defect? = none ↔ visit.IsSound := by
  cases visit with
  | typed type => cases h : type.text <;> simp [defect?, IsSound, h]
  | unmappable => simp [defect?, IsSound]

theorem defect?_eq_unmappable_iff {visit : PatternVisit} :
    visit.defect? = some .unmappable ↔ visit = .unmappable := by
  cases visit with
  | typed type => cases h : type.text <;> simp [defect?, h]
  | unmappable => simp [defect?]

theorem defect?_eq_untranslatable_iff {visit : PatternVisit} {e : UnsupportedType} :
    visit.defect? = some (.untranslatable e) ↔
      ∃ type, visit = .typed type ∧ type.text = .error e := by
  cases visit with
  | typed type => cases h : type.text <;> simp [defect?, h]
  | unmappable => simp [defect?]

def ofType (type : Option FlowType) : List PatternVisit := type.toList.map .typed

/-- A key that is neither a name nor a string, or is computed, has no counterpart. -/
def ofKey : PropertyKey → Bool → List PatternVisit
  | .identifier _, false => []
  | .string _, false => []
  | _, _ => [.unmappable]

end PatternVisit

mutual

def ObjectPattern.visits : ObjectPattern → List PatternVisit
  | ⟨_, members, type⟩ => PatternVisit.ofType type ++ PatternMember.visits members

def PatternMember.visits : List PatternMember → List PatternVisit
  | [] => []
  | .property _ key (.assignment _ left) computed :: rest =>
    PatternVisit.ofKey key computed ++ left.boundVisits ++ PatternMember.visits rest
  | .property _ key value computed :: rest =>
    PatternVisit.ofKey key computed ++ value.boundVisits ++ PatternMember.visits rest
  | .rest _ :: rest => .unmappable :: PatternMember.visits rest
  | .unsupported _ :: rest => .unmappable :: PatternMember.visits rest

/-- A name that a property is bound to is not looked at further. -/
def Pattern.boundVisits : Pattern → List PatternVisit
  | .identifier _ => []
  | .object pattern => pattern.visits
  | _ => [.unmappable]

end

def Pattern.visits : Pattern → List PatternVisit
  | .identifier id => PatternVisit.ofType id.type
  | .assignment _ (.identifier id) => PatternVisit.ofType id.type
  | .assignment _ (.object pattern) => pattern.visits
  | .object pattern => pattern.visits
  | .rest ⟨_, .identifier id, type⟩ => PatternVisit.ofType (type.or id.type)
  | _ => [.unmappable]

inductive PropertyKey.IsPlain : PropertyKey → Prop
  | name (id : Identifier) : IsPlain (.identifier id)
  | string (literal : StringLiteral) : IsPlain (.string literal)

mutual

/-- A destructured object whose members have counterparts, at every depth. -/
inductive ObjectPattern.IsMappable : ObjectPattern → Prop
  | intro {origin : Origin} {members : List PatternMember} {type : Option FlowType}
      (each_member : ∀ member ∈ members, PatternMember.IsMappable member) :
      ObjectPattern.IsMappable ⟨origin, members, type⟩

inductive PatternMember.IsMappable : PatternMember → Prop
  | property {origin : Origin} {key : PropertyKey} {value : Pattern} (key_plain : key.IsPlain)
      (binds : Pattern.IsBinding value) :
      PatternMember.IsMappable (.property origin key value false)
  | defaultProperty {origin inner : Origin} {key : PropertyKey} {left : Pattern}
      (key_plain : key.IsPlain) (binds : Pattern.IsBinding left) :
      PatternMember.IsMappable (.property origin key (.assignment inner left) false)

inductive Pattern.IsBinding : Pattern → Prop
  | name (id : Identifier) : Pattern.IsBinding (.identifier id)
  | object {pattern : ObjectPattern} (mappable : pattern.IsMappable) :
      Pattern.IsBinding (.object pattern)

end

inductive Pattern.IsMappable : Pattern → Prop
  | binding {pattern : Pattern} (binds : pattern.IsBinding) : IsMappable pattern
  | default {origin : Origin} {left : Pattern} (binds : left.IsBinding) :
      IsMappable (.assignment origin left)
  | rest {origin : Origin} {id : Identifier} {type : Option FlowType} :
      IsMappable (.rest ⟨origin, .identifier id, type⟩)

namespace PatternVisit

theorem unmappable_notMem_ofType (type : Option FlowType) : unmappable ∉ ofType type := by
  simp [ofType]

theorem unmappable_notMem_ofKey_iff {key : PropertyKey} {computed : Bool} :
    unmappable ∉ ofKey key computed ↔ key.IsPlain ∧ computed = false := by
  cases key with
  | identifier id => cases computed <;> simp [ofKey, PropertyKey.IsPlain.name]
  | string literal => cases computed <;> simp [ofKey, PropertyKey.IsPlain.string]
  | unsupported kind =>
      constructor
      · simp [ofKey]
      · rintro ⟨⟨⟩, -⟩

end PatternVisit

theorem PatternMember.visits_cons (origin : Origin) (key : PropertyKey) (value : Pattern)
    (computed : Bool) (rest : List PatternMember) :
    PatternMember.visits (.property origin key value computed :: rest) =
      PatternVisit.ofKey key computed ++ value.splitDefault.1.boundVisits ++
        PatternMember.visits rest := by
  cases value <;> rfl

theorem PatternMember.isMappable_property_iff {origin : Origin} {key : PropertyKey}
    {value : Pattern} {computed : Bool} :
    PatternMember.IsMappable (.property origin key value computed) ↔
      (key.IsPlain ∧ computed = false) ∧ value.splitDefault.1.IsBinding := by
  constructor
  · intro h
    cases h with
    | property key_plain binds =>
        have hbinds : value.splitDefault.1.IsBinding := by cases binds <;> constructor; assumption
        exact ⟨⟨key_plain, rfl⟩, hbinds⟩
    | defaultProperty key_plain binds => exact ⟨⟨key_plain, rfl⟩, binds⟩
  · rintro ⟨⟨hkey, rfl⟩, hbinds⟩
    cases value with
    | assignment _ left => exact .defaultProperty hkey hbinds
    | identifier id => exact .property hkey hbinds
    | object pattern => exact .property hkey hbinds
    | rest element => cases hbinds
    | unsupported kind => cases hbinds

mutual

theorem ObjectPattern.isMappable_iff : ∀ pattern : ObjectPattern,
    pattern.IsMappable ↔ .unmappable ∉ pattern.visits
  | ⟨origin, members, type⟩ => by
      have hmembers : ObjectPattern.IsMappable ⟨origin, members, type⟩ ↔
          ∀ member ∈ members, member.IsMappable := by
        constructor
        · rintro ⟨each_member⟩
          exact each_member
        · exact .intro
      rw [hmembers, PatternMember.isMappable_iff members, ObjectPattern.visits, List.mem_append]
      simp [PatternVisit.unmappable_notMem_ofType]

theorem PatternMember.isMappable_iff : ∀ members : List PatternMember,
    (∀ member ∈ members, member.IsMappable) ↔ .unmappable ∉ PatternMember.visits members
  | [] => by simp [PatternMember.visits]
  | .property origin key value computed :: rest => by
      have hbinds : value.splitDefault.1.IsBinding ↔
          .unmappable ∉ value.splitDefault.1.boundVisits := by
        cases value with
        | assignment _ left => exact left.isBinding_iff
        | identifier id => exact (Pattern.identifier id).isBinding_iff
        | object pattern => exact (Pattern.object pattern).isBinding_iff
        | rest element => exact (Pattern.rest element).isBinding_iff
        | unsupported kind => exact (Pattern.unsupported kind).isBinding_iff
      rw [List.forall_mem_cons, PatternMember.isMappable_property_iff, hbinds,
        PatternMember.isMappable_iff rest, PatternMember.visits_cons, List.mem_append,
        List.mem_append, ← PatternVisit.unmappable_notMem_ofKey_iff, not_or, not_or]
  | .rest element :: rest => by
      have hrest : ¬ PatternMember.IsMappable (.rest element) := nofun
      simp [PatternMember.visits, hrest]
  | .unsupported kind :: rest => by
      have hkind : ¬ PatternMember.IsMappable (.unsupported kind) := nofun
      simp [PatternMember.visits, hkind]

theorem Pattern.isBinding_iff : ∀ pattern : Pattern,
    pattern.IsBinding ↔ .unmappable ∉ pattern.boundVisits
  | .identifier id => by simp [Pattern.boundVisits, Pattern.IsBinding.name]
  | .object pattern => by
      rw [Pattern.boundVisits, ← pattern.isMappable_iff]
      constructor
      · rintro ⟨⟩
        assumption
      · exact .object
  | .assignment _ _ => by
      simp only [Pattern.boundVisits, List.mem_singleton, not_true_eq_false, iff_false]
      exact nofun
  | .rest _ => by
      simp only [Pattern.boundVisits, List.mem_singleton, not_true_eq_false, iff_false]
      exact nofun
  | .unsupported _ => by
      simp only [Pattern.boundVisits, List.mem_singleton, not_true_eq_false, iff_false]
      exact nofun

end

theorem Pattern.not_isMappable_rest {origin : Origin} {argument : Pattern}
    {type : Option FlowType} (h : ∀ id, argument ≠ .identifier id) :
    ¬ (Pattern.rest ⟨origin, argument, type⟩).IsMappable := by
  rintro (⟨⟨⟩⟩ | _ | _)
  exact h _ rfl

theorem Pattern.isMappable_iff (pattern : Pattern) :
    pattern.IsMappable ↔ .unmappable ∉ pattern.visits := by
  match pattern with
  | .identifier id =>
      simp [Pattern.visits, PatternVisit.unmappable_notMem_ofType,
        Pattern.IsMappable.binding (.name id)]
  | .object inner =>
      rw [Pattern.visits, ← inner.isMappable_iff]
      constructor
      · rintro ⟨⟨⟩⟩
        assumption
      · exact fun h => .binding (.object h)
  | .assignment origin left =>
      have hdefault : (Pattern.assignment origin left).IsMappable ↔ left.IsBinding := by
        constructor
        · rintro (⟨⟨⟩⟩ | binds)
          exact binds
        · exact .default
      rw [hdefault, left.isBinding_iff]
      cases left <;>
        simp [Pattern.boundVisits, Pattern.visits, PatternVisit.unmappable_notMem_ofType]
  | .rest ⟨origin, argument, type⟩ =>
      cases argument with
      | identifier id =>
          simp [Pattern.visits, PatternVisit.unmappable_notMem_ofType, Pattern.IsMappable.rest]
      | assignment _ _ => simp [Pattern.visits, Pattern.not_isMappable_rest]
      | rest _ => simp [Pattern.visits, Pattern.not_isMappable_rest]
      | object _ => simp [Pattern.visits, Pattern.not_isMappable_rest]
      | unsupported _ => simp [Pattern.visits, Pattern.not_isMappable_rest]
  | .unsupported kind =>
      simp only [Pattern.visits, List.mem_singleton, not_true_eq_false, iff_false]
      rintro ⟨⟨⟩⟩

namespace Traced

variable {α β : Type} {visits others : List PatternVisit}

/-- What becomes of something is decided by the first defect that is met. -/
def DecidedBy (x : Traced (Option α)) (visits : List PatternVisit) : Prop :=
  match visits.findSome? PatternVisit.defect? with
  | none => ∃ a, x.result = .ok (some a)
  | some .unmappable => x.result = .ok none
  | some (.untranslatable e) => x.result = .error e

theorem decidedBy_some (a : α) : DecidedBy (pure (some a)) [] := ⟨a, rfl⟩

theorem decidedBy_leaveOut (event : Event) (visits : List PatternVisit) :
    DecidedBy (leaveOut event : Traced (Option α)) (.unmappable :: visits) := rfl

theorem DecidedBy.bind {x : Traced (Option α)} {f : Option α → Traced (Option β)}
    (hx : x.DecidedBy visits) (hnone : (f none).result = .ok none)
    (hsome : ∀ a, (f (some a)).DecidedBy others) : (x >>= f).DecidedBy (visits ++ others) := by
  unfold DecidedBy at hx ⊢
  rw [List.findSome?_append, bind_result]
  cases hvisits : visits.findSome? PatternVisit.defect? with
  | none =>
      rw [hvisits] at hx
      obtain ⟨a, ha⟩ := hx
      rw [ha]
      exact hsome a
  | some defect =>
      rw [hvisits] at hx
      cases defect with
      | unmappable =>
          rw [Option.some_or, show x.result = .ok none from hx]
          exact hnone
      | untranslatable e =>
          rw [Option.some_or, show x.result = .error e from hx]
          rfl

theorem DecidedBy.map {x : Traced (Option α)} (hx : x.DecidedBy visits) (g : α → β) :
    DecidedBy (do return (← x).map g) visits := by
  have hmap := hx.bind (f := fun found => pure (found.map g)) rfl fun a => decidedBy_some (g a)
  rwa [List.append_nil] at hmap

theorem decidedBy_ofType {f : Option String → Traced (Option α)} (type : Option FlowType)
    (h : ∀ text, (f text).DecidedBy others) :
    DecidedBy (do f (← FlowType.text? type)) (PatternVisit.ofType type ++ others) := by
  cases type with
  | none => exact h none
  | some type =>
      unfold DecidedBy
      rw [bind_result, lift_result, FlowType.text?, PatternVisit.ofType, Option.toList_some,
        List.map_singleton, List.singleton_append, List.findSome?_cons, PatternVisit.defect?]
      cases type.text with
      | ok text => exact h (some text)
      | error e => rfl

theorem decidedBy_all {f : α → Traced (Option β)} {visits : α → List PatternVisit}
    (h : ∀ a, (f a).DecidedBy (visits a)) (l : List α) :
    (all f l).DecidedBy (l.flatMap visits) := by
  induction l with
  | nil => exact decidedBy_some []
  | cons a l ih => exact (h a).bind rfl fun b => ih.map (b :: ·)

end Traced

theorem destructuredKey?_cases (key : PropertyKey) (computed : Bool) :
    (∃ name, destructuredKey? key computed = some name ∧ PatternVisit.ofKey key computed = []) ∨
      destructuredKey? key computed = none ∧ PatternVisit.ofKey key computed = [.unmappable] := by
  cases key <;> cases computed <;> simp [destructuredKey?, PatternVisit.ofKey]

mutual

theorem ObjectPattern.param_decidedBy : ∀ pattern : ObjectPattern,
    pattern.param.DecidedBy pattern.visits
  | ⟨origin, members, type⟩ => by
      refine Traced.decidedBy_ofType type fun text => ?_
      rw [← List.append_nil (PatternMember.visits members)]
      exact (PatternMember.properties_decidedBy members).bind rfl fun properties =>
        Traced.decidedBy_some _

theorem PatternMember.properties_decidedBy : ∀ members : List PatternMember,
    (PatternMember.properties members).DecidedBy (PatternMember.visits members)
  | [] => Traced.decidedBy_some []
  | .property origin key value computed :: rest => by
      have hbinds : ∀ name, (value.splitDefault.1.nestedParam name).DecidedBy
          value.splitDefault.1.boundVisits := by
        cases value with
        | assignment _ left => exact left.nestedParam_decidedBy
        | identifier id => exact (Pattern.identifier id).nestedParam_decidedBy
        | object pattern => exact (Pattern.object pattern).nestedParam_decidedBy
        | rest element => exact (Pattern.rest element).nestedParam_decidedBy
        | unsupported kind => exact (Pattern.unsupported kind).nestedParam_decidedBy
      rw [PatternMember.properties_cons, PatternMember.visits_cons]
      rcases destructuredKey?_cases key computed with ⟨name, hname, hvisits⟩ | ⟨hname, hvisits⟩
      · rw [hname, hvisits, List.nil_append]
        exact (hbinds name).bind rfl fun bound => (PatternMember.properties_decidedBy rest).map _
      · rw [hname, hvisits]
        exact Traced.decidedBy_leaveOut _ _
  | .rest element :: rest => Traced.decidedBy_leaveOut _ _
  | .unsupported kind :: rest => Traced.decidedBy_leaveOut _ _

theorem Pattern.nestedParam_decidedBy : ∀ (pattern : Pattern) (name : String),
    (pattern.nestedParam name).DecidedBy pattern.boundVisits
  | .identifier id, name => Traced.decidedBy_some none
  | .object pattern, name => by
      rw [Pattern.boundVisits, ← List.append_nil pattern.visits]
      exact pattern.param_decidedBy.bind rfl fun nested => Traced.decidedBy_some _
  | .assignment _ _, name => Traced.decidedBy_leaveOut _ _
  | .rest _, name => Traced.decidedBy_leaveOut _ _
  | .unsupported _, name => Traced.decidedBy_leaveOut _ _

end

theorem Pattern.param_decidedBy (pattern : Pattern) : pattern.param.DecidedBy pattern.visits := by
  -- A named parameter is decided by its annotation alone.
  have hnamed (type : Option FlowType) (param : Option String → Param) :
      Traced.DecidedBy (do return some (param (← FlowType.text? type)))
        (PatternVisit.ofType type) := by
    rw [← List.append_nil (PatternVisit.ofType type)]
    exact Traced.decidedBy_ofType type fun text => Traced.decidedBy_some _
  match pattern with
  | .identifier id => exact hnamed id.type _
  | .assignment _ (.identifier id) => exact hnamed id.type _
  | .assignment _ (.object inner) => exact inner.param_decidedBy.map _
  | .object inner => exact inner.param_decidedBy.map _
  | .rest ⟨_, .identifier id, type⟩ => exact hnamed (type.or id.type) _
  | .assignment _ (.assignment _ _) => exact Traced.decidedBy_leaveOut _ _
  | .assignment _ (.rest _) => exact Traced.decidedBy_leaveOut _ _
  | .assignment _ (.unsupported _) => exact Traced.decidedBy_leaveOut _ _
  | .rest ⟨_, .assignment _ _, _⟩ => exact Traced.decidedBy_leaveOut _ _
  | .rest ⟨_, .rest _, _⟩ => exact Traced.decidedBy_leaveOut _ _
  | .rest ⟨_, .object _, _⟩ => exact Traced.decidedBy_leaveOut _ _
  | .rest ⟨_, .unsupported _, _⟩ => exact Traced.decidedBy_leaveOut _ _
  | .unsupported _ => exact Traced.decidedBy_leaveOut _ _

namespace Traced

variable {α : Type} {x : Traced (Option α)} {visits : List PatternVisit}

theorem DecidedBy.exists_some_iff (h : x.DecidedBy visits) :
    (∃ a, x.result = .ok (some a)) ↔ ∀ visit ∈ visits, visit.IsSound := by
  simp only [← PatternVisit.defect?_eq_none_iff]
  rw [← List.findSome?_eq_none_iff]
  unfold DecidedBy at h
  cases hvisits : visits.findSome? PatternVisit.defect? with
  | none =>
      rw [hvisits] at h
      exact ⟨fun _ => rfl, fun _ => h⟩
  | some defect =>
      rw [hvisits] at h
      cases defect <;> simp [h]

theorem DecidedBy.findSome?_eq_iff (h : x.DecidedBy visits) (defect : PatternDefect) :
    visits.findSome? PatternVisit.defect? = some defect ↔
      x.result = match defect with
        | .unmappable => .ok none
        | .untranslatable e => .error e := by
  unfold DecidedBy at h
  cases hvisits : visits.findSome? PatternVisit.defect? with
  | none =>
      rw [hvisits] at h
      obtain ⟨a, ha⟩ := h
      cases defect <;> simp [ha]
  | some found =>
      rw [hvisits] at h
      cases found <;> cases defect <;> simp [h, eq_comm]

end Traced

theorem PatternVisit.forall_isSound_iff {visits : List PatternVisit} :
    (∀ visit ∈ visits, visit.IsSound) ↔
      .unmappable ∉ visits ∧ ∀ type, .typed type ∈ visits → ∃ text, type.text = .ok text := by
  constructor
  · intro h
    refine ⟨fun hmem => ?_, fun type hmem => ?_⟩
    · obtain ⟨_, _, ⟨⟩, _⟩ := h _ hmem
    · obtain ⟨_, text, ⟨⟩, htext⟩ := h _ hmem
      exact ⟨text, htext⟩
  · rintro ⟨hmappable, hwritten⟩ visit hmem
    cases visit with
    | typed type =>
        obtain ⟨text, htext⟩ := hwritten type hmem
        exact ⟨type, text, rfl, htext⟩
    | unmappable => exact absurd hmem hmappable

/-- A parameter list is taken over as a whole, with one parameter for each pattern and one
property for each member at every depth, if all patterns are mappable and their annotations
can be written. Otherwise the first defect decides between nothing and an error. -/
theorem params_whole_or_first_defect (patterns : List Pattern) :
    ((∃ params, (Pattern.params patterns).result = .ok (some params)) ↔
      (∀ pattern ∈ patterns, pattern.IsMappable) ∧
        ∀ type, .typed type ∈ patterns.flatMap Pattern.visits →
          ∃ text, type.text = .ok text) ∧
    (∀ params, (Pattern.params patterns).result = .ok (some params) →
      List.Forall₂ Pattern.Becomes patterns params) ∧
    ((Pattern.params patterns).result = .ok none ↔
      ∃ before after, patterns.flatMap Pattern.visits = before ++ .unmappable :: after ∧
        ∀ visit ∈ before, visit.IsSound) ∧
    ∀ e, (Pattern.params patterns).result = .error e ↔
      ∃ before type after,
        patterns.flatMap Pattern.visits = before ++ .typed type :: after ∧
          (∀ visit ∈ before, visit.IsSound) ∧ type.text = .error e := by
  have hdecided : (Pattern.params patterns).DecidedBy (patterns.flatMap Pattern.visits) :=
    Traced.decidedBy_all Pattern.param_decidedBy patterns
  refine ⟨?_, fun params => Pattern.becomes_of_params, ?_, fun e => ?_⟩
  · rw [hdecided.exists_some_iff, PatternVisit.forall_isSound_iff]
    simp [Pattern.isMappable_iff]
  · refine (hdecided.findSome?_eq_iff .unmappable).symm.trans ?_
    rw [List.findSome?_eq_some_iff]
    simp only [PatternVisit.defect?_eq_none_iff, PatternVisit.defect?_eq_unmappable_iff]
    constructor
    · rintro ⟨before, _, after, hsplit, rfl, hbefore⟩
      exact ⟨before, after, hsplit, hbefore⟩
    · rintro ⟨before, after, hsplit, hbefore⟩
      exact ⟨before, _, after, hsplit, rfl, hbefore⟩
  · refine (hdecided.findSome?_eq_iff (.untranslatable e)).symm.trans ?_
    rw [List.findSome?_eq_some_iff]
    simp only [PatternVisit.defect?_eq_none_iff, PatternVisit.defect?_eq_untranslatable_iff]
    constructor
    · rintro ⟨before, _, after, hsplit, ⟨type, rfl, htext⟩, hbefore⟩
      exact ⟨before, type, after, hsplit, hbefore, htext⟩
    · rintro ⟨before, type, after, hsplit, hbefore, htext⟩
      exact ⟨before, _, after, hsplit, ⟨type, rfl, htext⟩, hbefore⟩

/-- `{ b: { 'c': c } = {} }: number`, where the key of the inner property may be computed. -/
def nestedPattern (computed : Bool) : Pattern :=
  .object ⟨{}, [.property {} (.identifier ⟨{}, "b", none, false⟩) (.assignment {} (.object ⟨{},
    [.property {} (.string ⟨{}, "c", none⟩) (.identifier ⟨{}, "c", none, false⟩) computed],
    none⟩)) false], some .number⟩

def typedName (type : FlowType) : Pattern := .identifier ⟨{}, "a", some type, false⟩

/-- The inner key decides, unless an annotation before it cannot be written. -/
theorem params_whole_or_first_defect_nested :
    (∃ params, (Pattern.params [typedName .string, nestedPattern false]).result =
        .ok (some params) ∧
      List.Forall₂ Pattern.Becomes [typedName .string, nestedPattern false] params) ∧
    (Pattern.params [typedName .string, nestedPattern true,
      typedName (.unsupported "typeof")]).result = .ok none ∧
    (Pattern.params [typedName (.unsupported "typeof"), nestedPattern true]).result =
      .error ⟨"typeof"⟩ := by
  refine ⟨?_, ?_, ?_⟩
  · obtain ⟨hwhole, hbecomes, -, -⟩ :=
      params_whole_or_first_defect [typedName .string, nestedPattern false]
    have hmappable : ∀ pattern ∈ [typedName .string, nestedPattern false],
        pattern.IsMappable := by
      intro pattern
      rw [pattern.isMappable_iff]
      revert pattern
      simp [typedName, nestedPattern, Pattern.visits, ObjectPattern.visits, PatternMember.visits,
        Pattern.boundVisits, PatternVisit.ofType, PatternVisit.ofKey]
    obtain ⟨params, hparams⟩ := hwhole.mpr ⟨hmappable, by
      simp [typedName, nestedPattern, Pattern.visits, ObjectPattern.visits, PatternMember.visits,
        Pattern.boundVisits, PatternVisit.ofType, PatternVisit.ofKey, FlowType.text]⟩
    exact ⟨params, hparams, hbecomes params hparams⟩
  · refine (params_whole_or_first_defect _).2.2.1.mpr
      ⟨[.typed .string, .typed .number], [.typed (.unsupported "typeof")], rfl, ?_⟩
    simp [PatternVisit.IsSound, FlowType.text]
  · exact ((params_whole_or_first_defect _).2.2.2 _).mpr
      ⟨[], .unsupported "typeof", [.typed .number, .unmappable], rfl, by simp, rfl⟩

end Ambient
