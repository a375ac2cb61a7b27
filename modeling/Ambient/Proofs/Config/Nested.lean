import Ambient.Config.Basic
import Ambient.Proofs.Schema.Documents

namespace Ambient

/-!
# Settings under a key of their own

Which settings a value gives: each one that it mentions has to fit, and the others have
their defaults. The settings of a file may stand under the key `dts`. If what stands there
gives no settings it is passed over as any unknown key is, and the file around it is read
as if the key were not there.
-/

/-- A setting that is given as a scalar, or not given, so that it has its default. -/
inductive Json.Tells {α : Type} (scalar : α → Json) (fallback : α) : Option Json → α → Prop
  | absent : Tells scalar fallback none fallback
  | given (a : α) : Tells scalar fallback (some (scalar a)) a

/-- A text that may be null. -/
def Json.ofText? : Option String → Json
  | none => .null
  | some text => .string text

def Json.ofPath? (path : Option Path) : Json := Json.ofText? (path.map Path.text)

namespace Config

/-- The names of the settings in their order. -/
def names : List String := [
  "packageName", "moduleRoot", "typings", "suppressModulePath", "suppressComments",
  "suppressAmbientDeclaration", "markUnspecifiedAsOptional", "ignoreMembers",
  "ignoreEmptyInterfaces", "ignoreEmptyClasses", "dryRun"]

/-- Each setting is as it is given by its name or its place, or else has its default. -/
structure ToldBy (given : String → Nat → Option Json) (config : Config) : Prop where
  packageName : Json.Tells Json.ofText? none (given "packageName" 0) config.packageName
  moduleRoot : Json.Tells Json.ofPath? none (given "moduleRoot" 1) config.moduleRoot
  typings : Json.Tells Json.ofPath? none (given "typings" 2) config.typings
  suppressModulePath :
    Json.Tells .bool false (given "suppressModulePath" 3) config.suppressModulePath
  suppressComments : Json.Tells .bool false (given "suppressComments" 4) config.suppressComments
  suppressAmbient :
    Json.Tells .bool false (given "suppressAmbientDeclaration" 5) config.suppressAmbient
  markUnspecified :
    Json.Tells .bool false (given "markUnspecifiedAsOptional" 6) config.markUnspecified
  ignoreMembers :
    Json.Tells .string MemberFilter.defaultSource (given "ignoreMembers" 7) config.ignoreMembers
  ignoreEmptyInterfaces :
    Json.Tells .bool true (given "ignoreEmptyInterfaces" 8) config.ignoreEmptyInterfaces
  ignoreEmptyClasses :
    Json.Tells .bool false (given "ignoreEmptyClasses" 9) config.ignoreEmptyClasses
  dryRun : Json.Tells .bool false (given "dryRun" 10) config.dryRun

/-- The settings that a value gives: by name in an object, where none is named twice, or in
their order in an array. -/
inductive Told : Json → Config → Prop
  | object {entries : List (String × Json)} {config : Config}
      (once : ∀ name ∈ names, (entries.map Prod.fst).count name ≤ 1)
      (told : ToldBy (fun name _ => Json.get? name entries) config) : Told (.object entries) config
  | array {items : List Json} {config : Config} (length_le : items.length ≤ size)
      (told : ToldBy (fun _ place => items[place]?) config) : Told (.array items) config

theorem eq_some_iff_tells {α : Type} {scalar : α → Json} {fallback : α} {x : Option α}
    {read : Option Json → Option α} {given : Option Json} (hread : x = read given)
    (habsent : read none = some fallback)
    (hgiven : ∀ value a, read (some value) = some a ↔ value = scalar a) {a : α} :
    x = some a ↔ Json.Tells scalar fallback given a := by
  rw [hread]
  constructor
  · intro h
    cases given with
    | none =>
        rw [habsent] at h
        cases h
        exact .absent
    | some value =>
        rw [(hgiven value a).mp h]
        exact .given a
  · intro h
    cases h with
    | absent => exact habsent
    | given => exact (hgiven _ a).mpr rfl

section

variable {source : Source} {key : String} {place : Nat} {given : Option Json}

theorem optionalText_eq_some_iff (h : source key place = some given) {text : Option String} :
    optionalText source key place = some text ↔ Json.Tells Json.ofText? none given text := by
  apply eq_some_iff_tells (by simp only [optionalText, h]; rfl)
  · rfl
  · intro value text
    cases value <;> cases text <;> simp [Json.ofText?]

theorem text_eq_some_iff (h : source key place = some given) {fallback text : String} :
    Config.text source key place fallback = some text ↔ Json.Tells .string fallback given text := by
  apply eq_some_iff_tells (by simp only [Config.text, h]; rfl)
  · rfl
  · intro value text
    cases value <;> simp

theorem flag_eq_some_iff (h : source key place = some given) {fallback flag : Bool} :
    Config.flag source key place fallback = some flag ↔ Json.Tells .bool fallback given flag := by
  apply eq_some_iff_tells (by simp only [Config.flag, h]; rfl)
  · rfl
  · intro value flag
    cases value <;> simp

theorem tells_path_of_text {text : Option String} (h : Json.Tells Json.ofText? none given text) :
    Json.Tells Json.ofPath? none given (text.map Path.mk) := by
  cases h with
  | absent => exact .absent
  | given =>
      have hscalar : Json.ofText? text = Json.ofPath? (text.map Path.mk) := by
        cases text <;> rfl
      rw [hscalar]
      exact .given _

theorem tells_text_of_path {path : Option Path} (h : Json.Tells Json.ofPath? none given path) :
    Json.Tells Json.ofText? none given (path.map Path.text) := by
  cases h with
  | absent => exact .absent
  | given => exact .given _

end

/-- The settings can be read if every one that is given can, and then each is as it is told. -/
theorem ofSource?_eq_some_iff {source : Source} {given : String → Nat → Option Json}
    (h : ∀ name ∈ names, ∀ place, source name place = some (given name place)) {config : Config} :
    ofSource? source = some config ↔ ToldBy given config := by
  simp only [names, List.forall_mem_cons, List.not_mem_nil, false_imp_iff, implies_true,
    and_true] at h
  obtain ⟨h0, h1, h2, h3, h4, h5, h6, h7, h8, h9, h10⟩ := h
  simp only [ofSource?, Option.bind_eq_bind, Option.bind_eq_some_iff, Option.pure_def,
    Option.some.injEq, optionalText_eq_some_iff (h0 _), optionalText_eq_some_iff (h1 _),
    optionalText_eq_some_iff (h2 _), flag_eq_some_iff (h3 _), flag_eq_some_iff (h4 _),
    flag_eq_some_iff (h5 _), flag_eq_some_iff (h6 _), text_eq_some_iff (h7 _),
    flag_eq_some_iff (h8 _), flag_eq_some_iff (h9 _), flag_eq_some_iff (h10 _)]
  constructor
  · rintro ⟨_, t0, _, t1, _, t2, _, t3, _, t4, _, t5, _, t6, _, t7, _, t8, _, t9, _, t10, rfl⟩
    exact ⟨t0, tells_path_of_text t1, tells_path_of_text t2, t3, t4, t5, t6, t7, t8, t9, t10⟩
  · rintro ⟨t0, t1, t2, t3, t4, t5, t6, t7, t8, t9, t10⟩
    refine ⟨_, t0, _, tells_text_of_path t1, _, tells_text_of_path t2, _, t3, _, t4, _, t5, _, t6,
      _, t7, _, t8, _, t9, _, t10, ?_⟩
    have hpath (path : Option Path) : (path.map Path.text).map Path.mk = path := by
      cases path <;> rfl
    simp [hpath]

/-- The first entry with a key has the value under it. -/
theorem get?_eq_filter (key : String) (entries : List (String × Json)) :
    Json.get? key entries = ((entries.filter fun entry => entry.1 == key).head?).map Prod.snd := by
  induction entries with
  | nil => rfl
  | cons entry rest ih =>
      by_cases h : entry.1 = key
      · simp [Json.get?, h]
      · simp [Json.get?, h, ih]

theorem length_filter_key (key : String) (entries : List (String × Json)) :
    (entries.filter fun entry => entry.1 == key).length = (entries.map Prod.fst).count key := by
  rw [List.count, List.countP_map, List.countP_eq_length_filter]
  rfl

/-- A key that is not given twice has the value that is found under it, if any. -/
theorem ofEntries_eq_some {entries : List (String × Json)} {key : String}
    (h : (entries.map Prod.fst).count key ≤ 1) (place : Nat) :
    ofEntries entries key place = some (Json.get? key entries) := by
  rw [← length_filter_key] at h
  rw [ofEntries, get?_eq_filter]
  split
  next hnone => rw [hnone]; rfl
  next entry hone => rw [hone]; rfl
  next hnone hone =>
      cases hfound : entries.filter fun entry => entry.1 == key with
      | nil => exact absurd hfound hnone
      | cons entry others =>
          cases others with
          | nil => exact absurd hfound (hone entry)
          | cons other others => simp [hfound] at h

theorem count_le_one_of_ofEntries {entries : List (String × Json)} {key : String} {place : Nat}
    {given : Option Json} (h : ofEntries entries key place = some given) :
    (entries.map Prod.fst).count key ≤ 1 := by
  rw [← length_filter_key]
  unfold ofEntries at h
  split at h
  next hnone => simp [hnone]
  next entry hone => simp [hone]
  next => cases h

/-- All settings are looked up, so none may be given twice. -/
theorem count_le_one_of_ofSource? {entries : List (String × Json)} {config : Config}
    (h : ofSource? (ofEntries entries) = some config) {name : String} (hname : name ∈ names) :
    (entries.map Prod.fst).count name ≤ 1 := by
  have hgiven {key : String} {place : Nat} {α : Type} {read : Option Json → Option α} {a : α}
      (hread : (ofEntries entries key place).bind read = some a) :
      (entries.map Prod.fst).count key ≤ 1 := by
    obtain ⟨given, hgiven, -⟩ := Option.bind_eq_some_iff.mp hread
    exact count_le_one_of_ofEntries hgiven
  simp only [ofSource?, Option.bind_eq_bind, Option.bind_eq_some_iff] at h
  obtain ⟨_, t0, _, t1, _, t2, _, t3, _, t4, _, t5, _, t6, _, t7, _, t8, _, t9, _, t10, -⟩ := h
  simp only [names, List.mem_cons, List.not_mem_nil, or_false] at hname
  rcases hname with rfl | rfl | rfl | rfl | rfl | rfl | rfl | rfl | rfl | rfl | rfl
  exacts [hgiven t0, hgiven t1, hgiven t2, hgiven t3, hgiven t4, hgiven t5, hgiven t6, hgiven t7,
    hgiven t8, hgiven t9, hgiven t10]

/-- A value is read as the settings that it gives, and if it gives none it cannot be read. -/
theorem ofValue?_eq_some_iff {value : Json} {config : Config} :
    ofValue? value = some config ↔ Told value config := by
  cases value with
  | object entries =>
      have hsome (hcount : ∀ name ∈ names, (entries.map Prod.fst).count name ≤ 1) :
          ofSource? (ofEntries entries) = some config ↔
            ToldBy (fun name _ => Json.get? name entries) config :=
        ofSource?_eq_some_iff fun name hname place => ofEntries_eq_some (hcount name hname) place
      constructor
      · intro h
        have honce : ∀ name ∈ names, (entries.map Prod.fst).count name ≤ 1 :=
          fun name hname => count_le_one_of_ofSource? h hname
        exact .object honce ((hsome honce).mp h)
      · rintro ⟨honce, htold⟩
        exact (hsome honce).mpr htold
  | array items =>
      have hsome : ofSource? (ofItems items) = some config ↔
          ToldBy (fun _ place => items[place]?) config :=
        ofSource?_eq_some_iff fun name _ place => rfl
      constructor
      · intro h
        rw [ofValue?] at h
        split at h
        next hlength => exact .array hlength (hsome.mp h)
        next => cases h
      · rintro ⟨⟩
        next hlength htold =>
            rw [ofValue?, if_pos hlength]
            exact hsome.mpr htold
  | _ =>
      constructor
      · intro h
        cases h
      · rintro ⟨⟩

/-- The settings that stand under the key `dts` of an object, which may be given once. -/
def ToldNested (entries : List (String × Json)) (config : Config) : Prop :=
  ∃ value, (entries.filter fun entry => entry.1 == "dts") = [("dts", value)] ∧ Told value config

theorem ofNested?_eq_some_iff {entries : List (String × Json)} {config : Config} :
    ofNested? (.object entries) = some config ↔ ToldNested entries config := by
  have hnested : ofNested? (.object entries) =
      (ofEntries entries "dts" 0).bind fun given => given.bind ofValue? := by
    simp only [ofNested?, Option.bind_eq_bind]
    congr 1
    funext given
    cases given <;> rfl
  rw [hnested, ofEntries, ToldNested]
  cases hfound : entries.filter fun entry => entry.1 == "dts" with
  | nil => simp
  | cons entry others =>
      cases others with
      | cons other others => simp
      | nil =>
          have hmem : entry ∈ entries.filter fun entry => entry.1 == "dts" := by simp [hfound]
          have hkey : entry.1 = "dts" := by simpa using (List.mem_filter.mp hmem).2
          obtain ⟨key, value⟩ := entry
          cases hkey
          simp [ofValue?_eq_some_iff]

theorem ToldBy.congr {given given' : String → Nat → Option Json} {config : Config}
    (h : ToldBy given config) (hsame : ∀ name ∈ names, given name = given' name) :
    ToldBy given' config := by
  simp only [names, List.forall_mem_cons, List.not_mem_nil, false_imp_iff, implies_true,
    and_true] at hsame
  obtain ⟨h0, h1, h2, h3, h4, h5, h6, h7, h8, h9, h10⟩ := hsame
  obtain ⟨t0, t1, t2, t3, t4, t5, t6, t7, t8, t9, t10⟩ := h
  exact ⟨h0 ▸ t0, h1 ▸ t1, h2 ▸ t2, h3 ▸ t3, h4 ▸ t4, h5 ▸ t5, h6 ▸ t6, h7 ▸ t7, h8 ▸ t8, h9 ▸ t9,
    h10 ▸ t10⟩

/-- No setting has the name `dts`, so an entry with it makes no difference. -/
theorem told_filter_iff {entries : List (String × Json)} {config : Config} :
    Told (.object (entries.filter fun entry => entry.1 != "dts")) config ↔
      Told (.object entries) config := by
  have hne : ∀ name ∈ names, name ≠ "dts" := by decide
  have hfilter : ∀ name ∈ names,
      ((entries.filter fun entry => entry.1 != "dts").filter fun entry => entry.1 == name) =
        entries.filter fun entry => entry.1 == name := by
    intro name hname
    rw [List.filter_filter]
    refine List.filter_congr fun entry _ => ?_
    by_cases h : entry.1 = name <;> simp [h, hne name hname]
  have hcount : ∀ name ∈ names,
      ((entries.filter fun entry => entry.1 != "dts").map Prod.fst).count name =
        (entries.map Prod.fst).count name := fun name hname => by
    rw [← length_filter_key, hfilter name hname, length_filter_key]
  have hget : ∀ name ∈ names, Json.get? name (entries.filter fun entry => entry.1 != "dts") =
      Json.get? name entries := fun name hname => by
    rw [get?_eq_filter, hfilter name hname, get?_eq_filter]
  constructor
  · rintro ⟨honce, htold⟩
    exact .object (fun name hname => hcount name hname ▸ honce name hname)
      (htold.congr fun name hname => funext fun _ => hget name hname)
  · rintro ⟨honce, htold⟩
    exact .object (fun name hname => (hcount name hname).symm ▸ honce name hname)
      (htold.congr fun name hname => funext fun _ => (hget name hname).symm)

theorem parse_of_json {text : String} {value : Json} (h : Json.parse text = .ok value) :
    parse text = match ofJson? value with
      | some config => .ok config
      | none => .error (.data (.noVariant "ConfigFile")) := by
  rw [parse, Json.outline_of_parse h]
  dsimp only
  cases ofJson? value <;> rfl

/-- The settings of a file that is an object are those that stand under its key `dts`, with
defaults for what they leave out. If none can be read there, they are those of the object
without that key, so mistakes in them are passed over; and if the object gives none either,
the file cannot be read. -/
theorem parse_nested {text : String} {entries : List (String × Json)}
    (htext : Json.parse text = .ok (.object entries)) :
    (∀ config, ToldNested entries config → parse text = .ok config) ∧
    ((¬ ∃ config, ToldNested entries config) →
      (∀ config, parse text = .ok config ↔
        Told (.object (entries.filter fun entry => entry.1 != "dts")) config) ∧
      ((¬ ∃ config, Told (.object (entries.filter fun entry => entry.1 != "dts")) config) →
        parse text = .error (.data (.noVariant "ConfigFile")))) := by
  have hparse := parse_of_json htext
  constructor
  · intro config hnested
    rw [hparse, ofJson?, ofNested?_eq_some_iff.mpr hnested]
    rfl
  · intro hnone
    have hnested : ofNested? (.object entries) = none := by
      refine Option.eq_none_iff_forall_not_mem.mpr fun config hconfig => hnone ⟨config, ?_⟩
      exact ofNested?_eq_some_iff.mp hconfig
    have hwhole : ofJson? (.object entries) = ofValue? (.object entries) := by
      rw [ofJson?, hnested, Option.none_or]
    rw [hwhole] at hparse
    simp only [told_filter_iff]
    simp only [← ofValue?_eq_some_iff, hparse]
    cases ofValue? (.object entries) <;> simp

/-- Settings under `dts` that fit, beside one of the file's own that does not. -/
theorem parse_nested_beside_misfit :
    ToldNested [("dts", .object [("dryRun", .bool true)]), ("typings", .bool false)]
        { dryRun := true } ∧
      parse "\x7b\"dts\":\x7b\"dryRun\":true\x7d,\"typings\":false\x7d" = .ok { dryRun := true } := by
  have htext : Json.parse "\x7b\"dts\":\x7b\"dryRun\":true\x7d,\"typings\":false\x7d" =
      .ok (.object [("dts", .object [("dryRun", .bool true)]), ("typings", .bool false)]) := by rfl
  have hnested : ToldNested [("dts", .object [("dryRun", .bool true)]), ("typings", .bool false)]
      { dryRun := true } := ofNested?_eq_some_iff.mp (by rfl)
  exact ⟨hnested, (parse_nested htext).1 _ hnested⟩

/-- A package name has to be a text. Where it is a number under `dts` there are no settings,
and yet the file is read, with nothing but defaults. -/
theorem misfit_is_passed_over :
    (¬ ∃ config, Told (.object [("packageName", .number (.whole 5))]) config) ∧
      parse "\x7b\"packageName\":5\x7d" = .error (.data (.noVariant "ConfigFile")) ∧
      parse "\x7b\"dts\":\x7b\"packageName\":5\x7d\x7d" = .ok {} := by
  refine ⟨?_, by rfl, by rfl⟩
  rintro ⟨config, htold⟩
  cases ofValue?_eq_some_iff.mpr htold

end Config

end Ambient
