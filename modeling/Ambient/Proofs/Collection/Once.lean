import Ambient.Proofs.Collection.Groups
import Ambient.Schema.Document

namespace Ambient

/-!
# What is listed, and how often

The listed statements of a program stand in it in the order of the source, each once.
Those of the body are the imports, interfaces, exports and classes. What stands deeper
is listed only if it is an import or an `export *`, and this is the only way in which
a listed statement can stand inside another one.
-/

namespace Occurrence

/-- Whether a statement stands in the body of its program. -/
def isTop (o : Occurrence) : Bool := o.path.length == 1

/-- A statement stands inside another one, at any depth. -/
def Inside (o other : Occurrence) : Prop :=
  ∃ rest, rest ≠ [] ∧ o.path = other.path ++ rest ∧
    Program.below? other.statement rest = some o.statement

/-- Whether a statement is listed where it stands. -/
def isListed (o : Occurrence) : Bool :=
  if o.isTop then o.statement.isSignificant else o.statement.isListedAnywhere

theorem mem_entry_iff (nested : Bool) (o found : Occurrence) (bucket : Bucket) :
    (bucket, found) ∈ o.entry nested ↔
      found = o ∧ o.statement.bucket? nested = some bucket := by
  unfold entry
  cases h : o.statement.bucket? nested with
  | none => simp
  | some other => simp [and_comm, eq_comm]

end Occurrence

namespace Statement

open Program (below?)

theorem isSome_bucket?_false (statement : Statement) :
    (statement.bucket? false).isSome = statement.isSignificant := by
  cases statement <;> rfl

theorem isSome_bucket?_true (statement : Statement) :
    (statement.bucket? true).isSome = statement.isListedAnywhere := by
  cases statement <;> rfl

theorem below?_cons_of_nested {statement inner : Statement}
    (h : statement.nested = some inner) (index : Nat) (rest : List Nat) :
    below? statement (index :: rest) = if index = 0 then below? inner rest else none := by
  simp [below?, h]

theorem below?_cons_of_not_nested {statement : Statement} (h : statement.nested = none)
    (index : Nat) (rest : List Nat) : below? statement (index :: rest) = none := by
  simp [below?, h]

/-- What is listed of a statement stands at its path or below it. -/
theorem mem_listedAt_iff (statement : Statement) (nested : Bool) (path : List Nat)
    (bucket : Bucket) (o : Occurrence) :
    (bucket, o) ∈ statement.listedAt nested path ↔
      ∃ rest, o.path = path ++ rest ∧ below? statement rest = some o.statement ∧
        o.statement.bucket? (nested || !rest.isEmpty) = some bucket := by
  induction statement using nested_induction generalizing nested path with
  | single statement h =>
      rw [listedAt_of_not_nested h, Occurrence.mem_entry_iff]
      constructor
      · rintro ⟨rfl, hbucket⟩
        exact ⟨[], by simp, rfl, by simpa using hbucket⟩
      · rintro ⟨rest, hpath, hbelow, hbucket⟩
        cases rest with
        | nil =>
            cases hbelow
            have ho : o = ⟨path, o.statement⟩ := by rw [← List.append_nil path, ← hpath]
            exact ⟨ho, by simpa using hbucket⟩
        | cons index rest =>
            rw [below?_cons_of_not_nested h] at hbelow
            cases hbelow
  | around statement inner h ih =>
      rw [listedAt_of_nested h, List.mem_append, Occurrence.mem_entry_iff, ih]
      constructor
      · rintro (⟨rfl, hbucket⟩ | ⟨rest, hpath, hbelow, hbucket⟩)
        · exact ⟨[], by simp, rfl, by simpa using hbucket⟩
        · refine ⟨0 :: rest, by simpa using hpath, ?_, by simpa using hbucket⟩
          rw [below?_cons_of_nested h, if_pos rfl, hbelow]
      · rintro ⟨rest, hpath, hbelow, hbucket⟩
        cases rest with
        | nil =>
            cases hbelow
            have ho : o = ⟨path, o.statement⟩ := by rw [← List.append_nil path, ← hpath]
            exact .inl ⟨ho, by simpa using hbucket⟩
        | cons index rest =>
            rw [below?_cons_of_nested h] at hbelow
            split at hbelow
            next hzero =>
                subst hzero
                exact .inr ⟨rest, by simpa using hpath, hbelow, by simpa using hbucket⟩
            next => cases hbelow

/-- Inside a statement is what stands at a longer path below it. -/
theorem mem_within_iff (statement found : Statement) :
    found ∈ statement.within ↔ ∃ rest, rest ≠ [] ∧ below? statement rest = some found := by
  induction statement using nested_induction generalizing found with
  | single statement h =>
      have hnone : statement.within = [] := by
        cases statement <;> simp_all [nested, within]
      rw [hnone]
      constructor
      · intro hmem
        cases hmem
      · rintro ⟨rest, hne, hbelow⟩
        cases rest with
        | nil => exact absurd rfl hne
        | cons index rest =>
            rw [below?_cons_of_not_nested h] at hbelow
            cases hbelow
  | around statement inner h ih =>
      rw [within_of_nested h, List.mem_cons, ih]
      constructor
      · rintro (rfl | ⟨rest, -, hbelow⟩)
        · exact ⟨[0], by simp, by rw [below?_cons_of_nested h, if_pos rfl]; rfl⟩
        · exact ⟨0 :: rest, by simp, by rw [below?_cons_of_nested h, if_pos rfl, hbelow]⟩
      · rintro ⟨rest, hne, hbelow⟩
        cases rest with
        | nil => exact absurd rfl hne
        | cons index rest =>
            rw [below?_cons_of_nested h] at hbelow
            split at hbelow
            next hzero =>
                cases rest with
                | nil => exact .inl (Option.some.inj hbelow).symm
                | cons next rest => exact .inr ⟨next :: rest, by simp, hbelow⟩
            next => cases hbelow

theorem lt_append_cons (path : List Nat) (index : Nat) (rest : List Nat) :
    path < path ++ index :: rest := by
  induction path with
  | nil => exact List.Lex.nil
  | cons first path ih => exact List.Lex.cons ih

/-- A statement comes before what is inside it. -/
theorem pairwise_listedAt (statement : Statement) (nested : Bool) (path : List Nat) :
    (statement.listedAt nested path).Pairwise fun l m => l.2.path < m.2.path := by
  have hentry : ∀ (s : Statement) (nested : Bool) (path : List Nat),
      (Occurrence.entry nested ⟨path, s⟩).Pairwise fun l m => l.2.path < m.2.path := by
    intro s nested path
    unfold Occurrence.entry
    cases s.bucket? nested <;> simp
  induction statement using nested_induction generalizing nested path with
  | single statement h =>
      rw [listedAt_of_not_nested h]
      exact hentry statement nested path
  | around statement inner h ih =>
      rw [listedAt_of_nested h, List.pairwise_append]
      refine ⟨hentry statement nested path, ih true (path ++ [0]), ?_⟩
      rintro ⟨bucket, o⟩ ho ⟨other, p⟩ hp
      obtain ⟨rfl, -⟩ := (Occurrence.mem_entry_iff nested ⟨path, statement⟩ o bucket).mp ho
      obtain ⟨rest, hpath, -⟩ := (inner.mem_listedAt_iff true (path ++ [0]) other p).mp hp
      simpa [hpath] using lt_append_cons path 0 rest

end Statement

namespace Program

/-- The statements of the body where they stand. -/
def top (program : Program) : List Occurrence :=
  program.body.zipIdx.map fun indexed => ⟨[indexed.2], indexed.1⟩

/-- The listed statements in source order, each where it stands. -/
def listedOccurrences (program : Program) : List Occurrence := program.listedAt.map (·.2)

/-- The statements on a list where they stand. -/
def occurrencesOn (program : Program) (bucket : Bucket) : List Occurrence :=
  (program.listedAt.filter (·.1 = bucket)).map (·.2)

theorem collect_eq_occurrencesOn (program : Program) :
    program.collect = ⟨(program.occurrencesOn .imports).map (·.statement),
      (program.occurrencesOn .interfaces).map (·.statement),
      (program.occurrencesOn .exports).map (·.statement)⟩ := by
  have hlist : ∀ bucket, Collected.onList bucket program.listed =
      (program.occurrencesOn bucket).map (·.statement) := by
    intro bucket
    rw [← program.forget_listedAt, Collected.onList, occurrencesOn, List.filter_map, List.map_map,
      List.map_map]
    rfl
  rw [collect, Collected.ofListed_eq_onList, hlist, hlist, hlist]

theorem at?_eq_some_iff (program : Program) (path : List Nat) (o : Occurrence) :
    program.at? path = some o ↔ ∃ index rest, path = index :: rest ∧ o.path = path ∧
      ∃ s, program.body[index]? = some s ∧ below? s rest = some o.statement := by
  obtain ⟨place, statement⟩ := o
  cases path with
  | nil => simp [at?]
  | cons index rest =>
      simp only [at?, Option.bind_eq_some_iff, Option.map_eq_some_iff, Occurrence.mk.injEq]
      constructor
      · rintro ⟨s, hs, t, ht, rfl, rfl⟩
        exact ⟨index, rest, rfl, rfl, s, hs, ht⟩
      · rintro ⟨_, _, hpath, rfl, s, hs, ht⟩
        obtain ⟨rfl, rfl⟩ := List.cons.inj hpath
        exact ⟨s, hs, statement, ht, rfl, rfl⟩

theorem isTop_of_path_eq {o : Occurrence} {index : Nat} {rest : List Nat}
    (h : o.path = index :: rest) : o.isTop = rest.isEmpty := by
  cases rest <;> simp [Occurrence.isTop, h]

theorem mem_listedAt_iff (program : Program) (bucket : Bucket) (o : Occurrence) :
    (bucket, o) ∈ program.listedAt ↔
      program.at? o.path = some o ∧ o.statement.bucket? (!o.isTop) = some bucket := by
  simp only [listedAt, List.mem_flatMap, Prod.exists, List.mem_zipIdx_iff_getElem?,
    Statement.mem_listedAt_iff, at?_eq_some_iff]
  constructor
  · rintro ⟨s, index, hbody, rest, hpath, hbelow, hbucket⟩
    refine ⟨⟨index, rest, hpath, trivial, s, hbody, hbelow⟩, ?_⟩
    simpa [isTop_of_path_eq hpath] using hbucket
  · rintro ⟨⟨index, rest, hpath, -, s, hbody, hbelow⟩, hbucket⟩
    refine ⟨s, index, hbody, rest, hpath, hbelow, ?_⟩
    simpa [isTop_of_path_eq hpath] using hbucket

theorem mem_listedOccurrences_iff (program : Program) (o : Occurrence) :
    o ∈ program.listedOccurrences ↔ program.at? o.path = some o ∧ o.isListed = true := by
  have hlisted : o.isListed = (o.statement.bucket? (!o.isTop)).isSome := by
    unfold Occurrence.isListed
    cases o.isTop with
    | false => exact (Statement.isSome_bucket?_true _).symm
    | true => exact (Statement.isSome_bucket?_false _).symm
  simp only [listedOccurrences, List.mem_map, Prod.exists, exists_eq_right, mem_listedAt_iff,
    hlisted, Option.isSome_iff_exists, exists_and_left]

/-- The listed statements are in the order of the source, so none is listed twice. -/
theorem pairwise_listedOccurrences (program : Program) :
    program.listedOccurrences.Pairwise fun o p => o.path < p.path := by
  have hindexes : program.body.zipIdx.Pairwise fun a b => a.2 < b.2 := by
    rw [← List.pairwise_map (f := Prod.snd), List.zipIdx_map_snd]
    exact List.pairwise_lt_range'
  rw [listedOccurrences, List.pairwise_map, listedAt, List.pairwise_flatMap]
  refine ⟨fun indexed _ => Statement.pairwise_listedAt _ _ _, hindexes.imp ?_⟩
  rintro ⟨s, i⟩ ⟨t, j⟩ hij ⟨bucket, o⟩ ho ⟨other, p⟩ hp
  obtain ⟨rest, ho, -⟩ := (s.mem_listedAt_iff false [i] bucket o).mp ho
  obtain ⟨others, hp, -⟩ := (t.mem_listedAt_iff false [j] other p).mp hp
  simp only [ho, hp]
  exact List.Lex.rel hij

theorem filter_isTop_listedAt (s : Statement) (index : Nat) :
    (s.listedAt false [index]).filter (·.2.isTop) = Occurrence.entry false ⟨[index], s⟩ := by
  have hentry : (Occurrence.entry false ⟨[index], s⟩).filter (·.2.isTop) =
      Occurrence.entry false ⟨[index], s⟩ := by
    refine List.filter_eq_self.mpr ?_
    rintro ⟨bucket, o⟩ ho
    obtain ⟨rfl, -⟩ := (Occurrence.mem_entry_iff false ⟨[index], s⟩ o bucket).mp ho
    rfl
  cases hnested : s.nested with
  | none => rw [Statement.listedAt_of_not_nested hnested, hentry]
  | some inner =>
      have hinner : (inner.listedAt true ([index] ++ [0])).filter (·.2.isTop) = [] := by
        refine List.filter_eq_nil_iff.mpr ?_
        rintro ⟨bucket, o⟩ ho
        obtain ⟨rest, hpath, -⟩ := (inner.mem_listedAt_iff true _ bucket o).mp ho
        simp [Occurrence.isTop, hpath]
      rw [Statement.listedAt_of_nested hnested, List.filter_append, hentry, hinner,
        List.append_nil]

/-- What is listed of the body is its imports, interfaces, exports and classes. -/
theorem filter_isTop_listedOccurrences (program : Program) :
    program.listedOccurrences.filter (·.isTop) =
      program.top.filter (·.statement.isSignificant) := by
  have hentry : ∀ o : Occurrence, (o.entry false).map (·.2) =
      if o.statement.isSignificant then [o] else [] := by
    intro o
    rw [← Statement.isSome_bucket?_false, Occurrence.entry]
    cases o.statement.bucket? false <;> rfl
  rw [listedOccurrences, listedAt, top, List.filter_map, List.filter_flatMap, List.map_flatMap]
  simp only [Function.comp_def, filter_isTop_listedAt, hentry]
  induction program.body.zipIdx with
  | nil => rfl
  | cons indexed rest ih =>
      rw [List.flatMap_cons, ih, List.map_cons, List.filter_cons]
      split <;> rfl

/-- A listed statement that does not stand in the body is inside one that is listed. -/
theorem isTop_eq_false_iff_inside {program : Program} {o : Occurrence}
    (ho : o ∈ program.listedOccurrences) :
    o.isTop = false ↔ ∃ p ∈ program.listedOccurrences, o.Inside p := by
  obtain ⟨hfound, -⟩ := (program.mem_listedOccurrences_iff o).mp ho
  obtain ⟨index, rest, hpath, -, s, hbody, hbelow⟩ := (program.at?_eq_some_iff _ o).mp hfound
  constructor
  · intro htop
    have hrest : rest ≠ [] := by
      rintro rfl
      rw [isTop_of_path_eq hpath] at htop
      cases htop
    -- Only exports have something inside them, and an export in the body is listed.
    have hsignificant : s.isSignificant = true := by
      obtain ⟨next, others, rfl⟩ := List.exists_cons_of_ne_nil hrest
      cases hnested : s.nested with
      | none =>
          rw [Statement.below?_cons_of_not_nested hnested] at hbelow
          cases hbelow
      | some inner =>
          cases s <;>
            simp_all [Statement.nested, Statement.isSignificant, Statement.isExport]
    refine ⟨⟨[index], s⟩, (program.mem_listedOccurrences_iff _).mpr ⟨?_, hsignificant⟩,
      rest, hrest, hpath, hbelow⟩
    exact (program.at?_eq_some_iff _ _).mpr ⟨index, [], rfl, rfl, s, hbody, rfl⟩
  · rintro ⟨p, hp, others, hne, hinside, -⟩
    obtain ⟨hp, -⟩ := (program.mem_listedOccurrences_iff p).mp hp
    obtain ⟨first, deeper, hfirst, -⟩ := (program.at?_eq_some_iff _ p).mp hp
    obtain ⟨next, others, rfl⟩ := List.exists_cons_of_ne_nil hne
    simp [Occurrence.isTop, hinside, hfirst]

theorem forall_isTop_iff (program : Program) :
    (∀ o ∈ program.listedOccurrences, o.isTop = true) ↔ program.ListsAtTop := by
  constructor
  · intro h s hs t ht
    obtain ⟨index, hbody⟩ := List.mem_iff_getElem?.mp hs
    obtain ⟨rest, hrest, hbelow⟩ := (s.mem_within_iff t).mp ht
    have htop : (Occurrence.mk (index :: rest) t).isTop = false := by
      simp [isTop_of_path_eq (o := ⟨index :: rest, t⟩) rfl, hrest]
    have hfound : program.at? (index :: rest) = some ⟨index :: rest, t⟩ :=
      (program.at?_eq_some_iff _ _).mpr ⟨index, rest, rfl, rfl, s, hbody, hbelow⟩
    cases hlisted : t.isListedAnywhere with
    | false => simpa [Statement.isListedAnywhere] using hlisted
    | true =>
        have hmem : ⟨index :: rest, t⟩ ∈ program.listedOccurrences :=
          (program.mem_listedOccurrences_iff _).mpr
            ⟨hfound, by simp [Occurrence.isListed, htop, hlisted]⟩
        rw [h _ hmem] at htop
        cases htop
  · intro h o ho
    obtain ⟨hfound, hlisted⟩ := (program.mem_listedOccurrences_iff o).mp ho
    obtain ⟨index, rest, hpath, -, s, hbody, hbelow⟩ := (program.at?_eq_some_iff _ o).mp hfound
    cases htop : o.isTop with
    | true => rfl
    | false =>
        have hrest : rest ≠ [] := by
          rintro rfl
          rw [isTop_of_path_eq hpath] at htop
          cases htop
        obtain ⟨himport, hall⟩ := h s (List.mem_of_getElem? hbody) o.statement
          ((s.mem_within_iff o.statement).mpr ⟨rest, hrest, hbelow⟩)
        simp [Occurrence.isListed, htop, Statement.isListedAnywhere, himport, hall] at hlisted

/-- The lists hold statements of the program, each once and in source order: the
imports, interfaces, exports and classes of the body, and any import or `export *`
that stands deeper. No listed statement stands inside another one, and nothing but
the body is listed, exactly if there is no import and no `export *` inside an export. -/
theorem listed_once (program : Program) :
    program.collect = ⟨(program.occurrencesOn .imports).map (·.statement),
        (program.occurrencesOn .interfaces).map (·.statement),
        (program.occurrencesOn .exports).map (·.statement)⟩ ∧
      program.listedOccurrences.Pairwise (fun o p => o.path < p.path) ∧
      (∀ o, o ∈ program.listedOccurrences ↔
        program.at? o.path = some o ∧ o.isListed = true) ∧
      program.listedOccurrences.filter (·.isTop) =
        program.top.filter (·.statement.isSignificant) ∧
      ((∀ o ∈ program.listedOccurrences, ∀ p ∈ program.listedOccurrences, ¬ o.Inside p) ↔
        program.ListsAtTop) ∧
      (program.listedOccurrences = program.top.filter (·.statement.isSignificant) ↔
        program.ListsAtTop) := by
  refine ⟨program.collect_eq_occurrencesOn, program.pairwise_listedOccurrences,
    program.mem_listedOccurrences_iff, program.filter_isTop_listedOccurrences, ?_, ?_⟩
  · rw [← program.forall_isTop_iff]
    constructor
    · intro h o ho
      cases htop : o.isTop with
      | true => rfl
      | false =>
          obtain ⟨p, hp, hinside⟩ := (isTop_eq_false_iff_inside ho).mp htop
          exact absurd hinside (h o ho p hp)
    · intro h o ho p hp hinside
      have htop := (isTop_eq_false_iff_inside ho).mpr ⟨p, hp, hinside⟩
      rw [h o ho] at htop
      cases htop
  · rw [← program.forall_isTop_iff, ← program.filter_isTop_listedOccurrences, eq_comm,
      List.filter_eq_self]

/-- The text of a module that exports an import. -/
def exportedImportText : String :=
  "\x7b\"type\":\"Program\",\"body\":[\x7b\"type\":\"ExportNamedDeclaration\"," ++
    "\"declaration\":\x7b\"type\":\"ImportDeclaration\"," ++
    "\"source\":\x7b\"type\":\"StringLiteral\",\"value\":\"a\"\x7d\x7d\x7d]\x7d"

/-- The import inside an export is listed beside the export that it is in. -/
theorem import_listed_inside_export :
    ∃ program, Program.parse exportedImportText = .ok program ∧
      program.collect.exports.map Statement.label = ["ExportNamedDeclaration@0..0"] ∧
      program.collect.imports.map Statement.label = ["ImportDeclaration@0..0"] ∧
      ∃ o ∈ program.listedOccurrences, ∃ p ∈ program.listedOccurrences, o.Inside p := by
  have hread : (Program.parse exportedImportText).toOption.map (fun program =>
      (program.collect.exports.map Statement.label, program.collect.imports.map Statement.label,
        program.listedOccurrences.map Occurrence.path)) =
      some (["ExportNamedDeclaration@0..0"], ["ImportDeclaration@0..0"], [[0], [0, 0]]) := by
    decide +kernel
  cases hparse : Program.parse exportedImportText with
  | error e =>
      rw [hparse] at hread
      cases hread
  | ok program =>
      rw [hparse] at hread
      simp only [Except.toOption, Option.map_some, Option.some.injEq, Prod.mk.injEq] at hread
      obtain ⟨hexports, himports, hpaths⟩ := hread
      have hmem : [0, 0] ∈ program.listedOccurrences.map Occurrence.path := by simp [hpaths]
      obtain ⟨o, ho, hpath⟩ := List.mem_map.mp hmem
      exact ⟨program, rfl, hexports, himports, o, ho,
        (isTop_eq_false_iff_inside ho).mp (isTop_of_path_eq hpath)⟩

end Program

end Ambient
