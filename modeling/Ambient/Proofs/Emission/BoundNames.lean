import Ambient.Declaration.Layout
import Ambient.Proofs.Emission.Parameters
import Ambient.Proofs.Lexical.Token
import Ambient.Proofs.Text.Lines
import Ambient.Proofs.TypeText.Form

namespace Ambient

open Lexical

/-!
# Names that patterns bind

A property of a destructured parameter that is not destructured again is bound to a name in the
source. It is written by its key alone, so it binds a name only if the key is one that can be
bound. A shorthand property is always such a one, a property that is renamed need not be.
-/

/-- The tokens of a property in a pattern that binds a name, which stands by itself or behind a
key. -/
inductive BindsName : List Token → Prop
  | bare {name : String} (bindable : isBindingName name = true) : BindsName [.word name]
  | behindWord {key name : String} (bindable : isBindingName name = true) :
      BindsName [.word key, .mark .colon, .word name]
  | behindString {literal name : String} (bindable : isBindingName name = true) :
      BindsName [.string literal, .mark .colon, .word name]

namespace PropertyKey

/-- Whether a key can stand for the name that it is bound to. -/
def canBind : PropertyKey → Bool
  | .identifier id => isBindingName id.name
  | _ => false

/-- The name of a property is one token, and it binds a name if the key can. -/
theorem exists_tokens {key : PropertyKey} (hkey : key.isWellFormed = true) {name : String}
    (hname : destructuredKey? key false = some name) :
    ∃ tokens, tokens? name.toList = some tokens ∧ (BindsName tokens ↔ key.canBind = true) := by
  have hread : ∀ {token : Token}, Reads name [token] → tokens? name.toList = some [token] := by
    intro token h
    simpa [tokens?] using h [] endsWord_nil
  cases key with
  | identifier id =>
      obtain rfl : id.name = name := Option.some.inj hname
      refine ⟨[.word id.name], hread (reads_name hkey), ?_, .bare⟩
      rintro ⟨bindable⟩
      exact bindable
  | string literal =>
      obtain rfl : literal.text = name := Option.some.inj hname
      refine ⟨[.string literal.text], hread (reads_literal hkey), fun hbinds => ?_, fun hcan => ?_⟩
      · cases hbinds
      · cases hcan
  | unsupported kind => cases hname

end PropertyKey

/-- The object that a member is destructured into again. -/
def PatternMember.inner? : PatternMember → Option ObjectPattern
  | .property _ _ value _ =>
    match value.splitDefault.1 with
    | .object inner => some inner
    | _ => none
  | _ => none

/-- The pattern inside a pattern that is found at these places, one for each pattern around it. -/
def ObjectPattern.inside? (pattern : ObjectPattern) : List Nat → Option ObjectPattern
  | [] => some pattern
  | i :: path => pattern.members[i]?.bind fun member =>
    member.inner?.bind fun inner => inner.inside? path

/-- The parameter inside a parameter that is found at these places. -/
def ObjectParameter.inside? (param : ObjectParameter) : List Nat → Option ObjectParameter
  | [] => some param
  | i :: path => param.properties[i]?.bind fun property =>
    property.value.bind fun nested => nested.inside? path

theorem ObjectPattern.Becomes.forall₂ {pattern : ObjectPattern} {param : ObjectParameter}
    (h : pattern.Becomes param) :
    List.Forall₂ PatternMember.Becomes pattern.members param.properties := by
  cases h with
  | intro _ each_member => exact each_member

theorem PatternMember.Becomes.exists_inner {member : PatternMember}
    {property : DestructuredProperty} (h : member.Becomes property) {nested : ObjectParameter}
    (hvalue : property.value = some nested) :
    ∃ inner, member.inner? = some inner ∧ inner.Becomes nested := by
  cases h with
  | @property origin key value computed name bound _ binds =>
      obtain rfl : bound = some nested := hvalue
      rw [inner?]
      generalize value.splitDefault.1 = left at binds
      cases binds with
      | object becomes => exact ⟨_, rfl, becomes⟩

/-- What stands inside a parameter comes from what stands at the same places of its pattern. -/
theorem ObjectPattern.Becomes.exists_inside {pattern : ObjectPattern}
    {param inner : ObjectParameter} (h : pattern.Becomes param) {path : List Nat}
    (hinner : param.inside? path = some inner) :
    ∃ source, pattern.inside? path = some source ∧ source.Becomes inner := by
  induction path generalizing pattern param with
  | nil =>
      cases hinner
      exact ⟨pattern, rfl, h⟩
  | cons i path ih =>
      obtain ⟨property, hproperty, hinner⟩ := Option.bind_eq_some_iff.mp hinner
      obtain ⟨nested, hnested, hinner⟩ := Option.bind_eq_some_iff.mp hinner
      obtain ⟨member, hmember, hbecomes⟩ := exists_getElem?_of_forall₂ h.forall₂.flip hproperty
      obtain ⟨left, hleft, hleftBecomes⟩ := hbecomes.exists_inner hnested
      obtain ⟨source, hsource, hsourceBecomes⟩ := ih hleftBecomes hinner
      refine ⟨source, ?_, hsourceBecomes⟩
      rw [inside?, hmember, Option.bind_some, hleft, Option.bind_some, hsource]

theorem PatternMember.Becomes.of_plain {member : PatternMember} {property : DestructuredProperty}
    (h : member.Becomes property) (hplain : property.value = none) :
    ∃ origin key value id, member = .property origin key value false ∧
      value.splitDefault.1 = .identifier id ∧ destructuredKey? key false = some property.key := by
  cases h with
  | @property origin key value computed name bound named binds =>
      obtain rfl : bound = none := hplain
      -- A computed key has no name, so the property would not have been accepted.
      have hcomputed : computed = false := by
        cases computed with
        | false => rfl
        | true => cases key <;> cases named
      subst hcomputed
      generalize hleft : value.splitDefault.1 = left at binds
      cases binds with
      | name id => exact ⟨origin, key, value, id, rfl, hleft, named⟩

theorem DestructuredProperty.pattern_of_plain (layout : Layout) {property : DestructuredProperty}
    (h : property.value = none) : property.pattern layout = property.key := by
  obtain ⟨key, value, isOptional⟩ := property
  obtain rfl : value = none := h
  rw [pattern]

theorem DestructuredProperty.pattern_of_nested (layout : Layout) {property : DestructuredProperty}
    {nested : ObjectParameter} (h : property.value = some nested) :
    property.pattern layout = property.key ++ ": " ++ nested.pattern layout := by
  obtain ⟨key, value, isOptional⟩ := property
  obtain rfl : value = some nested := h
  rw [pattern]

theorem DestructuredProperty.patterns_eq_map (layout : Layout)
    (properties : List DestructuredProperty) :
    patterns layout properties =
      properties.map fun property => Text.indent layout.step (property.pattern layout) := by
  induction properties with
  | nil => rw [patterns, List.map_nil]
  | cons property rest ih => rw [patterns, ih, List.map_cons]

/-- Each property is written in the pattern that it belongs to, one step further in. -/
theorem ObjectParameter.exists_written (layout : Layout) {param : ObjectParameter} {i : Nat}
    {property : DestructuredProperty} (h : param.properties[i]? = some property) :
    ∃ before after, param.pattern layout =
      before ++ Text.hang layout.step (property.pattern layout) ++ after := by
  obtain ⟨properties, type, isOptional⟩ := param
  have hmem : Text.indent layout.step (property.pattern layout) ∈
      DestructuredProperty.patterns layout properties := by
    rw [DestructuredProperty.patterns_eq_map]
    exact List.mem_map_of_mem (List.mem_of_getElem? h)
  obtain ⟨before, after, hsplit⟩ := Text.exists_intercalate ",\n" hmem
  cases properties with
  | nil => simp at h
  | cons first rest =>
      rw [pattern, hsplit, Text.indent_eq_hang]
      refine ⟨"\x7b\n" ++ before ++ layout.step, after ++ "\n\x7d", ?_⟩
      simp only [String.append_assoc]

/-- A pattern inside another one is written in it, one step further in for each one around it. -/
theorem ObjectParameter.exists_inside_written (layout : Layout) {param inner : ObjectParameter}
    {path : List Nat} (h : param.inside? path = some inner) :
    ∃ before after, param.pattern layout =
      before ++ (Text.hang layout.step)^[path.length] (inner.pattern layout) ++ after := by
  induction path generalizing param with
  | nil =>
      cases h
      exact ⟨"", "", by simp⟩
  | cons i path ih =>
      obtain ⟨property, hproperty, h⟩ := Option.bind_eq_some_iff.mp h
      obtain ⟨nested, hnested, h⟩ := Option.bind_eq_some_iff.mp h
      refine Text.exists_stands_hang (exists_written layout hproperty) ?_
      obtain ⟨before, after, hsplit⟩ := ih h
      rw [DestructuredProperty.pattern_of_nested layout hnested, hsplit]
      exact ⟨property.key ++ ": " ++ before, after, by simp only [String.append_assoc]⟩

/-- A property that is not destructured again is bound to a name in the source, and at every depth
it is written by its key alone. If the key is one that a program can have, what is written binds a
name exactly if the key can be bound itself: a string or a reserved word cannot. -/
theorem ObjectPattern.binds_name_iff (layout : Layout) {pattern : ObjectPattern}
    {param : ObjectParameter} (h : pattern.param.result = .ok (some param)) {path : List Nat}
    {inner : ObjectParameter} (hinner : param.inside? path = some inner) :
    ∃ source, pattern.inside? path = some source ∧
      (∃ before after, param.pattern layout =
        before ++ (Text.hang layout.step)^[path.length] (inner.pattern layout) ++ after) ∧
      ∀ (i : Nat) (property : DestructuredProperty), inner.properties[i]? = some property →
        property.value = none → ∃ origin key value id,
          source.members[i]? = some (.property origin key value false) ∧
          value.splitDefault.1 = .identifier id ∧
          (∃ before after, inner.pattern layout =
            before ++ Text.hang layout.step (property.pattern layout) ++ after) ∧
          destructuredKey? key false = some (property.pattern layout) ∧
          (key.isWellFormed = true → ∃ tokens,
            tokens? (property.pattern layout).toList = some tokens ∧
              (BindsName tokens ↔ key.canBind = true)) := by
  obtain ⟨source, hsource, hbecomes⟩ := (pattern.becomes_of_param param h).exists_inside hinner
  refine ⟨source, hsource, ObjectParameter.exists_inside_written layout hinner,
    fun i property hproperty hplain => ?_⟩
  obtain ⟨member, hmember, hmemberBecomes⟩ :=
    exists_getElem?_of_forall₂ hbecomes.forall₂.flip hproperty
  obtain ⟨origin, key, value, id, rfl, hid, hkey⟩ := hmemberBecomes.of_plain hplain
  rw [← DestructuredProperty.pattern_of_plain layout hplain] at hkey
  exact ⟨origin, key, value, id, hmember, hid, ObjectParameter.exists_written layout hproperty,
    hkey, fun hwellFormed => PropertyKey.exists_tokens hwellFormed hkey⟩

/-- `{ a, b: { default: c, e = 1 } }` -/
def renamedDefault : ObjectPattern :=
  let plain (name : String) : Identifier := ⟨{}, name, none, false⟩
  ⟨{}, [.property {} (.identifier (plain "a")) (.identifier (plain "a")) false,
    .property {} (.identifier (plain "b")) (.object ⟨{},
      [.property {} (.identifier (plain "default")) (.identifier (plain "c")) false,
        .property {} (.identifier (plain "e")) (.assignment {} (.identifier (plain "e"))) false],
      none⟩) false], none⟩

theorem ObjectPattern.binds_name_iff_renamedDefault : ∃ param inner,
    renamedDefault.param.result = .ok (some param) ∧ param.inside? [1] = some inner ∧
      param.pattern {} = "\x7b\n  a,\n  b: \x7b\n    default,\n    e\n  \x7d\n\x7d" ∧
      ∃ reserved shorthand, inner.properties = [reserved, shorthand] ∧
        (∃ tokens, tokens? (reserved.pattern {}).toList = some tokens ∧ ¬ BindsName tokens) ∧
        ∃ tokens, tokens? (shorthand.pattern {}).toList = some tokens ∧ BindsName tokens := by
  obtain ⟨source, hsource, -, hplain⟩ := ObjectPattern.binds_name_iff {}
    (show renamedDefault.param.result = .ok (some _) from rfl)
    (show ObjectParameter.inside? _ [1] = some _ from rfl)
  cases hsource
  refine ⟨_, _, rfl, rfl, rfl, _, _, rfl, ?_, ?_⟩
  · obtain ⟨_, _, _, _, hmember, -, -, -, htokens⟩ := hplain 0 _ rfl rfl
    cases hmember
    obtain ⟨tokens, hread, hiff⟩ := htokens rfl
    exact ⟨tokens, hread, fun hbinds => absurd (hiff.mp hbinds) (by decide)⟩
  · obtain ⟨_, _, _, _, hmember, -, -, -, htokens⟩ := hplain 1 _ rfl rfl
    cases hmember
    obtain ⟨tokens, hread, hiff⟩ := htokens rfl
    exact ⟨tokens, hread, hiff.mpr (by decide)⟩

/-- `{ 'a-b': x }` -/
def ObjectPattern.quotedKey : ObjectPattern :=
  ⟨{}, [.property {} (.string ⟨{}, "a-b", some "'a-b'"⟩)
    (.identifier ⟨{}, "x", none, false⟩) false], none⟩

/-- A string for a key is not a name, whatever the property is bound to. -/
theorem ObjectPattern.string_key_binds_nothing : ∃ param property,
    quotedKey.param.result = .ok (some param) ∧ param.properties = [property] ∧
      property.value = none ∧ param.pattern {} = "\x7b\n  'a-b'\n\x7d" ∧
      ∃ tokens, tokens? (property.pattern {}).toList = some tokens ∧ ¬ BindsName tokens := by
  have hkey : PropertyKey.isWellFormed (.string ⟨{}, "a-b", some "'a-b'"⟩) = true := by cbv
  obtain ⟨tokens, hread, hiff⟩ := PropertyKey.exists_tokens hkey rfl
  exact ⟨_, _, rfl, rfl, rfl, rfl, tokens, hread,
    fun hbinds => absurd (hiff.mp hbinds) (by decide)⟩

end Ambient
