import Ambient.Collection.Scope

namespace Ambient

/-!
# What a full walk collects

A full walk enters every statement before what is inside it and leaves it
afterwards. A collector on such a walk never meets a scope out of turn, and it
lists the same statements as the recursion over the program, each at its own
place.
-/

/-- A place on a list: the list, and the statement where it stands. -/
abbrev Listing := Bucket × Occurrence

namespace Listing

/-- The statement on its list, without the place where it stands. -/
def forget (listing : Listing) : Bucket × Statement := (listing.1, listing.2.statement)

end Listing

namespace Occurrence

/-- An occurrence with the list it is put on, if there is one. -/
def entry (nested : Bool) (o : Occurrence) : List Listing :=
  (o.statement.bucket? nested).toList.map fun bucket => (bucket, o)

theorem forget_entry (nested : Bool) (o : Occurrence) :
    (o.entry nested).map Listing.forget = o.statement.entry nested := by
  unfold entry Statement.entry
  cases o.statement.bucket? nested <;> rfl

end Occurrence

namespace Statement

/-- A full walk over a statement: into it, over the statement inside it, and out
of it. -/
def walk (path : List Nat) : Statement → List WalkStep
  | .exportNamed origin declaration specifiers source =>
    .enter ⟨path, .exportNamed origin declaration specifiers source⟩ ::
      (match declaration with
      | some inner => inner.walk (path ++ [0])
      | none => []) ++
      [.exit ⟨path, .exportNamed origin declaration specifiers source⟩]
  | .exportDefault origin declaration =>
    .enter ⟨path, .exportDefault origin declaration⟩ ::
      (match declaration with
      | some inner => inner.walk (path ++ [0])
      | none => []) ++
      [.exit ⟨path, .exportDefault origin declaration⟩]
  | statement => [.enter ⟨path, statement⟩, .exit ⟨path, statement⟩]

/-- A statement and those inside it as they are listed, each where it stands. -/
def listedAt (nested : Bool) (path : List Nat) : Statement → List Listing
  | .exportNamed origin declaration specifiers source =>
    Occurrence.entry nested ⟨path, .exportNamed origin declaration specifiers source⟩ ++
      match declaration with
      | some inner => inner.listedAt true (path ++ [0])
      | none => []
  | .exportDefault origin declaration =>
    Occurrence.entry nested ⟨path, .exportDefault origin declaration⟩ ++
      match declaration with
      | some inner => inner.listedAt true (path ++ [0])
      | none => []
  | statement => Occurrence.entry nested ⟨path, statement⟩

theorem walk_of_nested {statement inner : Statement} (h : statement.nested = some inner)
    (path : List Nat) :
    statement.walk path =
      .enter ⟨path, statement⟩ :: inner.walk (path ++ [0]) ++ [.exit ⟨path, statement⟩] := by
  cases statement <;> simp_all [nested, walk]

theorem walk_of_not_nested {statement : Statement} (h : statement.nested = none)
    (path : List Nat) :
    statement.walk path = [.enter ⟨path, statement⟩, .exit ⟨path, statement⟩] := by
  cases statement <;> simp_all [nested, walk]

theorem listedAt_of_nested {statement inner : Statement} (h : statement.nested = some inner)
    (nested : Bool) (path : List Nat) :
    statement.listedAt nested path =
      Occurrence.entry nested ⟨path, statement⟩ ++ inner.listedAt true (path ++ [0]) := by
  cases statement <;> simp_all [Statement.nested, listedAt]

theorem listedAt_of_not_nested {statement : Statement} (h : statement.nested = none)
    (nested : Bool) (path : List Nat) :
    statement.listedAt nested path = Occurrence.entry nested ⟨path, statement⟩ := by
  cases statement <;> simp_all [Statement.nested, listedAt]

theorem listed_of_nested {statement inner : Statement} (h : statement.nested = some inner)
    (nested : Bool) : statement.listed nested = statement.entry nested ++ inner.listed true := by
  cases statement <;> simp_all [Statement.nested, listed]

theorem listed_of_not_nested {statement : Statement} (h : statement.nested = none)
    (nested : Bool) : statement.listed nested = statement.entry nested := by
  cases statement <;> simp_all [Statement.nested, listed]

/-- To prove something of all statements, prove it of one from the statement
directly inside it. -/
theorem nested_induction {motive : Statement → Prop}
    (single : ∀ statement, statement.nested = none → motive statement)
    (around : ∀ statement inner, statement.nested = some inner → motive inner → motive statement) :
    ∀ statement, motive statement
  | .exportNamed _ (some inner) _ _ =>
    around _ inner rfl (nested_induction single around inner)
  | .exportDefault _ (some inner) =>
    around _ inner rfl (nested_induction single around inner)
  | .exportNamed _ none _ _ => single _ rfl
  | .exportDefault _ none => single _ rfl
  | .imports _ => single _ rfl
  | .exportAll _ => single _ rfl
  | .variables _ => single _ rfl
  | .function _ => single _ rfl
  | .classes _ => single _ rfl
  | .interface _ => single _ rfl
  | .unsupported _ _ => single _ rfl

theorem forget_listedAt (statement : Statement) (nested : Bool) (path : List Nat) :
    (statement.listedAt nested path).map Listing.forget = statement.listed nested := by
  induction statement using nested_induction generalizing nested path with
  | single statement h =>
      rw [listedAt_of_not_nested h, listed_of_not_nested h]
      exact Occurrence.forget_entry nested ⟨path, statement⟩
  | around statement inner h ih =>
      rw [listedAt_of_nested h, listed_of_nested h, List.map_append, ih]
      rw [Occurrence.forget_entry nested ⟨path, statement⟩]

end Statement

namespace Program

/-- A full walk over a program, statement by statement. -/
def walk (program : Program) : List WalkStep :=
  program.body.zipIdx.flatMap fun indexed => indexed.1.walk [indexed.2]

/-- The listed statements of a program in source order, each where it stands. -/
def listedAt (program : Program) : List Listing :=
  program.body.zipIdx.flatMap fun indexed => indexed.1.listedAt false [indexed.2]

theorem forget_listedAt (program : Program) :
    program.listedAt.map Listing.forget = program.listed := by
  unfold listedAt listed
  rw [List.map_flatMap]
  simp only [Statement.forget_listedAt]
  calc
    _ = (program.body.zipIdx.map Prod.fst).flatMap (Statement.listed false) := by
      rw [List.flatMap_map]
    _ = _ := by rw [List.zipIdx_map_fst]

end Program

namespace ScopeCollector

/-- A walk, with what each step reports. -/
def run (c : ScopeCollector) : List WalkStep → ScopeCollector × List (Option CollectError)
  | [] => (c, [])
  | step :: steps =>
    let rest := (c.step step).1.run steps
    (rest.1, (c.step step).2 :: rest.2)

/-- What a step puts on the lists. -/
def listing (c : ScopeCollector) : WalkStep → List Listing
  | .enter o => o.entry (!c.scopes.isEmpty)
  | .exit _ => []

/-- What a walk puts on the lists. -/
def listings (c : ScopeCollector) : List WalkStep → List Listing
  | [] => []
  | step :: steps => c.listing step ++ (c.step step).1.listings steps

theorem run_append (c : ScopeCollector) (xs ys : List WalkStep) :
    c.run (xs ++ ys) =
      (((c.run xs).1.run ys).1, (c.run xs).2 ++ ((c.run xs).1.run ys).2) := by
  induction xs generalizing c with
  | nil => rfl
  | cons x xs ih => simp [run, ih]

theorem listings_append (c : ScopeCollector) (xs ys : List WalkStep) :
    c.listings (xs ++ ys) = c.listings xs ++ (c.run xs).1.listings ys := by
  induction xs generalizing c with
  | nil => rfl
  | cons x xs ih => simp [run, listings, ih, List.append_assoc]

theorem exit_collected (c : ScopeCollector) (o : Occurrence) :
    (c.exit o).1.collected = c.collected := by
  unfold exit
  split
  · rfl
  · split <;> rfl

/-- The lists after a step are the lists before it and what the step puts on
them. -/
theorem step_collected (c : ScopeCollector) (step : WalkStep) :
    (c.step step).1.collected =
      ((c.listing step).map Listing.forget).foldl Collected.add c.collected := by
  cases step with
  | enter o =>
      rw [listing, Occurrence.forget_entry]
      rfl
  | exit o => exact exit_collected c o

theorem run_collected (c : ScopeCollector) (steps : List WalkStep) :
    (c.run steps).1.collected =
      ((c.listings steps).map Listing.forget).foldl Collected.add c.collected := by
  induction steps generalizing c with
  | nil => rfl
  | cons step steps ih =>
      rw [run, ih, step_collected, listings, List.map_append, List.foldl_append]

/-- What a walk over a part of a program does to a collector: it reports nothing,
leaves the scopes as they were, and lists what it should. -/
structure Passes (c : ScopeCollector) (steps : List WalkStep) (listed : List Listing) :
    Prop where
  outcomes : ∀ outcome ∈ (c.run steps).2, outcome = none
  scopes : (c.run steps).1.scopes = c.scopes
  listings : c.listings steps = listed

namespace Passes

theorem nil (c : ScopeCollector) : Passes c [] [] where
  outcomes := by simp [run]
  scopes := rfl
  listings := rfl

theorem append {c : ScopeCollector} {xs ys : List WalkStep} {ls ms : List Listing}
    (hx : Passes c xs ls) (hy : Passes (c.run xs).1 ys ms) : Passes c (xs ++ ys) (ls ++ ms) where
  outcomes := by
    intro outcome h
    rw [run_append, List.mem_append] at h
    rcases h with h | h
    · exact hx.outcomes outcome h
    · exact hy.outcomes outcome h
  scopes := by rw [run_append, hy.scopes, hx.scopes]
  listings := by rw [listings_append, hx.listings, hy.listings]

/-- Entering a statement that opens no scope and leaving it at once. -/
theorem closed (c : ScopeCollector) {o : Occurrence} (h : o.statement.opensScope = false) :
    Passes c [.enter o, .exit o] (o.entry (!c.scopes.isEmpty)) where
  outcomes := by simp [run, step, exit, h]
  scopes := by simp [run, step, exit, enter, h]
  listings := by simp [ScopeCollector.listings, listing]

/-- Entering a statement that opens a scope, walking inside it, and leaving it.
The scope is the innermost one again when it is left. -/
theorem opened (c : ScopeCollector) {o : Occurrence} (h : o.statement.opensScope = true)
    {inside : List WalkStep} {listed : List Listing}
    (hin : Passes (c.enter o) inside listed) :
    Passes c (.enter o :: inside ++ [.exit o]) (o.entry (!c.scopes.isEmpty) ++ listed) := by
  have hopen : (c.enter o).scopes = o :: c.scopes := by simp [enter, h]
  have hinside : ((c.enter o).run inside).1.scopes = o :: c.scopes := hin.scopes.trans hopen
  have hleave : ((c.enter o).run inside).1.exit o =
      ({ ((c.enter o).run inside).1 with scopes := c.scopes }, none) := by
    simp [exit, h, hinside]
  refine ⟨?_, ?_, ?_⟩
  · intro outcome hmem
    have hcases : outcome = none ∨ outcome ∈ ((c.enter o).run inside).2 ∨ outcome = none := by
      simpa [run, step, run_append, hleave] using hmem
    rcases hcases with hfirst | hmiddle | hlast
    · exact hfirst
    · exact hin.outcomes outcome hmiddle
    · exact hlast
  · simp [run, step, run_append, hleave]
  · simp [ScopeCollector.listings, listing, step, listings_append, hin.listings]

end Passes

/-- Induct from the inside out: what is inside a statement is walked with that
statement's scope open. -/
theorem passes_walk (statement : Statement) (path : List Nat) (c : ScopeCollector) :
    Passes c (statement.walk path) (statement.listedAt (!c.scopes.isEmpty) path) := by
  induction statement using Statement.nested_induction generalizing path c with
  | single statement h =>
      rw [Statement.walk_of_not_nested h, Statement.listedAt_of_not_nested h]
      cases hs : statement.opensScope with
      | false => exact .closed c hs
      | true => simpa using Passes.opened c (o := ⟨path, statement⟩) hs (.nil _)
  | around statement inner h ih =>
      rw [Statement.walk_of_nested h, Statement.listedAt_of_nested h]
      have hs : statement.opensScope = true := Statement.opensScope_of_nested h
      have hin := ih (path ++ [0]) (c.enter ⟨path, statement⟩)
      have hnested : (c.enter ⟨path, statement⟩).scopes.isEmpty = false := by simp [enter, hs]
      rw [hnested] at hin
      exact .opened c hs hin

theorem passes_walks (indexed : List (Statement × Nat)) (c : ScopeCollector)
    (hc : c.scopes = []) :
    Passes c (indexed.flatMap fun i => i.1.walk [i.2])
      (indexed.flatMap fun i => i.1.listedAt false [i.2]) := by
  induction indexed generalizing c with
  | nil => exact .nil c
  | cons i indexed ih =>
      have hfirst := passes_walk i.1 [i.2] c
      rw [hc] at hfirst
      exact hfirst.append (ih _ (hfirst.scopes.trans hc))

end ScopeCollector

namespace WalkStep

/-- The occurrence that a step enters or leaves. -/
def occurrence : WalkStep → Occurrence
  | .enter o => o
  | .exit o => o

end WalkStep

namespace Program

theorem below?_append (statement : Statement) (path rest : List Nat) :
    below? statement (path ++ rest) = (below? statement path).bind fun s => below? s rest := by
  induction path generalizing statement with
  | nil => rfl
  | cons index path ih =>
      by_cases h : index = 0
      · cases hn : statement.nested with
        | none => simp [below?, h, hn]
        | some inner => simp [below?, h, hn, ih]
      · simp [below?, h]

/-- A step meets what stands at its path, inside the statement at this index. -/
def Stands (root : Statement) (index : Nat) (step : WalkStep) : Prop :=
  ∃ rest, step.occurrence.path = index :: rest ∧
    below? root rest = some step.occurrence.statement

theorem stands_of_mem_walk (root : Statement) {index : Nat} {statement : Statement}
    {path : List Nat} (hpath : below? root path = some statement) :
    ∀ step ∈ statement.walk (index :: path), Stands root index step := by
  induction statement using Statement.nested_induction generalizing path with
  | single statement h =>
      intro step hstep
      rw [Statement.walk_of_not_nested h] at hstep
      simp only [List.mem_cons, List.not_mem_nil, or_false] at hstep
      rcases hstep with rfl | rfl
      · exact ⟨path, rfl, hpath⟩
      · exact ⟨path, rfl, hpath⟩
  | around statement inner h ih =>
      intro step hstep
      have hinner : below? root (path ++ [0]) = some inner := by
        rw [below?_append, hpath]
        simp [below?, h]
      rw [Statement.walk_of_nested h] at hstep
      simp only [List.cons_append, List.mem_cons, List.mem_append, List.not_mem_nil,
        or_false] at hstep
      rcases hstep with rfl | hstep | rfl
      · exact ⟨path, rfl, hpath⟩
      · exact ih hinner step hstep
      · exact ⟨path, rfl, hpath⟩

/-- A full walk over a program enters and leaves its statements where they
stand. -/
theorem at?_of_mem_walk (program : Program) :
    ∀ step ∈ program.walk, program.at? step.occurrence.path = some step.occurrence := by
  intro step hstep
  obtain ⟨⟨statement, index⟩, hindexed, hwalk⟩ := List.mem_flatMap.mp hstep
  have hbody : program.body[index]? = some statement :=
    List.mem_zipIdx_iff_getElem?.mp hindexed
  obtain ⟨rest, hrest, hbelow⟩ := stands_of_mem_walk statement rfl step hwalk
  rw [hrest, at?, hbody, Option.bind_some, hbelow, Option.map_some, ← hrest]

/-- A fresh collector on a full walk over a program, which meets every statement
where it stands, reports no error at any step and ends with no scope open. Its
lists are those of the recursion over the program, and every statement on them
is the one that stands where the recursion lists it. -/
theorem walk_collects (program : Program) :
    let walked := ({} : ScopeCollector).run program.walk
    (∀ step ∈ program.walk, program.at? step.occurrence.path = some step.occurrence) ∧
      (∀ outcome ∈ walked.2, outcome = none) ∧ walked.1.depth = 0 ∧
      walked.1.finish = .ok program.collect ∧
      ({} : ScopeCollector).listings program.walk = program.listedAt := by
  have h := ScopeCollector.passes_walks program.body.zipIdx {} rfl
  have hscopes : (({} : ScopeCollector).run program.walk).1.scopes = [] := h.scopes
  have hlistings : ({} : ScopeCollector).listings program.walk = program.listedAt := h.listings
  have hcollected : (({} : ScopeCollector).run program.walk).1.collected = program.collect := by
    rw [ScopeCollector.run_collected, hlistings, forget_listedAt]
    rfl
  refine ⟨program.at?_of_mem_walk, h.outcomes, ?_, ?_, hlistings⟩
  · simp [ScopeCollector.depth, hscopes]
  · simp [ScopeCollector.finish, hscopes, hcollected]

end Program

end Ambient
