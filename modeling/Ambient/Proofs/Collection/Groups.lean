import Ambient.Emission.Module
import Ambient.Proofs.Collection.Walk

namespace Ambient

/-!
# The lists of a module

Where nothing is imported or exported as a whole from inside an export, the lists of
a module are its imports, its interfaces and its exports, each in the order of the
body. How the three are interleaved and what stands between them makes no
difference to the document.
-/

namespace Statement

def isImport : Statement → Bool
  | .imports _ => true
  | _ => false

def isInterface : Statement → Bool
  | .interface _ => true
  | _ => false

def isExportAll : Statement → Bool
  | .exportAll _ => true
  | _ => false

/-- Whether a statement is an export of any kind or a class. -/
def isExport : Statement → Bool
  | .exportAll _ => true
  | .exportNamed .. => true
  | .exportDefault .. => true
  | .classes _ => true
  | _ => false

def goesOn (statement : Statement) : Bucket → Bool
  | .imports => statement.isImport
  | .interfaces => statement.isInterface
  | .exports => statement.isExport

theorem bucket?_false_eq_some_iff (statement : Statement) (bucket : Bucket) :
    statement.bucket? false = some bucket ↔ statement.goesOn bucket = true := by
  cases statement <;> cases bucket <;>
    simp [bucket?, goesOn, isImport, isInterface, isExport]

/-- Whether a statement can come into a document when it stands in the body. -/
def isSignificant (statement : Statement) : Bool :=
  statement.isImport || statement.isInterface || statement.isExport

/-- The statements inside a statement, at any depth. -/
def within : Statement → List Statement
  | .exportNamed _ (some inner) _ _ => inner :: inner.within
  | .exportDefault _ (some inner) => inner :: inner.within
  | _ => []

theorem within_of_nested {statement inner : Statement} (h : statement.nested = some inner) :
    statement.within = inner :: inner.within := by
  cases statement <;> simp_all [nested, within]

/-- Whether a statement is put on a list wherever it stands. -/
def isListedAnywhere (statement : Statement) : Bool :=
  statement.isImport || statement.isExportAll

theorem entry_true_of_not_listedAnywhere {statement : Statement}
    (h : statement.isListedAnywhere = false) : statement.entry true = [] := by
  cases statement with
  | imports d => cases h
  | exportAll d => cases h
  | _ => rfl

theorem listed_true_eq_nil (statement : Statement) (h : statement.isListedAnywhere = false)
    (hwithin : ∀ t ∈ statement.within, t.isListedAnywhere = false) :
    statement.listed true = [] := by
  induction statement using nested_induction with
  | single statement hnested =>
      rw [listed_of_not_nested hnested, entry_true_of_not_listedAnywhere h]
  | around statement inner hnested ih =>
      rw [within_of_nested hnested] at hwithin
      obtain ⟨hinner, hwithin⟩ := List.forall_mem_cons.mp hwithin
      rw [listed_of_nested hnested, entry_true_of_not_listedAnywhere h, ih hinner hwithin]
      rfl

theorem listed_false_eq_entry (statement : Statement)
    (hwithin : ∀ t ∈ statement.within, t.isListedAnywhere = false) :
    statement.listed false = statement.entry false := by
  cases hnested : statement.nested with
  | none => rw [listed_of_not_nested hnested]
  | some inner =>
      rw [within_of_nested hnested] at hwithin
      obtain ⟨hinner, hwithin⟩ := List.forall_mem_cons.mp hwithin
      rw [listed_of_nested hnested, inner.listed_true_eq_nil hinner hwithin, List.append_nil]

end Statement

namespace Collected

/-- The statements that are put on one of the lists, in order. -/
def onList (bucket : Bucket) (entries : List (Bucket × Statement)) : List Statement :=
  (entries.filter (·.1 = bucket)).map (·.2)

theorem onList_cons (bucket : Bucket) (entry : Bucket × Statement)
    (entries : List (Bucket × Statement)) :
    onList bucket (entry :: entries) =
      (if entry.1 = bucket then [entry.2] else []) ++ onList bucket entries := by
  by_cases h : entry.1 = bucket <;> simp [onList, h]

theorem foldl_add (entries : List (Bucket × Statement)) (collected : Collected) :
    entries.foldl add collected =
      ⟨collected.imports ++ onList .imports entries,
        collected.interfaces ++ onList .interfaces entries,
        collected.exports ++ onList .exports entries⟩ := by
  induction entries generalizing collected with
  | nil => simp [onList]
  | cons entry entries ih =>
      obtain ⟨bucket, statement⟩ := entry
      rw [List.foldl_cons, ih]
      cases bucket <;> simp [add, onList_cons]

theorem ofListed_eq_onList (entries : List (Bucket × Statement)) :
    ofListed entries =
      ⟨onList .imports entries, onList .interfaces entries, onList .exports entries⟩ := by
  simp [ofListed, foldl_add]

theorem onList_append (bucket : Bucket) (xs ys : List (Bucket × Statement)) :
    onList bucket (xs ++ ys) = onList bucket xs ++ onList bucket ys := by
  simp [onList]

theorem onList_entry (bucket : Bucket) (s : Statement) :
    onList bucket (s.entry false) = if s.goesOn bucket then [s] else [] := by
  have hs := s.bucket?_false_eq_some_iff bucket
  unfold Statement.entry
  cases hbucket : s.bucket? false with
  | none =>
      have hnot : s.goesOn bucket = false := by simpa [hbucket] using hs
      simp [onList, hnot]
  | some other =>
      rw [hbucket, Option.some.injEq] at hs
      by_cases heq : other = bucket <;> simp_all [onList]

theorem onList_flatMap_entry (bucket : Bucket) (body : List Statement) :
    onList bucket (body.flatMap (Statement.entry false)) = body.filter (·.goesOn bucket) := by
  induction body with
  | nil => rfl
  | cons s body ih =>
      rw [List.flatMap_cons, onList_append, ih, onList_entry, List.filter_cons]
      split <;> rfl

end Collected

namespace Program

/-- Nothing is imported or exported as a whole from inside an export. -/
def ListsAtTop (program : Program) : Prop :=
  ∀ s ∈ program.body, ∀ t ∈ s.within, t.isImport = false ∧ t.isExportAll = false

instance (program : Program) : Decidable program.ListsAtTop :=
  inferInstanceAs (Decidable (∀ s ∈ program.body, ∀ t ∈ s.within,
    t.isImport = false ∧ t.isExportAll = false))

/-- The body without the statements that are not imports, exports, classes or
interfaces. -/
def significant (program : Program) : List Statement :=
  program.body.filter Statement.isSignificant

theorem ListsAtTop.listed_eq {program : Program} (h : program.ListsAtTop) :
    program.listed = program.body.flatMap (Statement.entry false) := by
  have hentry : program.body.map (Statement.listed false) =
      program.body.map (Statement.entry false) := by
    refine List.map_congr_left fun s hs => s.listed_false_eq_entry fun t ht => ?_
    obtain ⟨himport, hall⟩ := h s hs t ht
    simp [Statement.isListedAnywhere, himport, hall]
  rw [listed, List.flatMap_def, hentry, List.flatMap_def]

/-- Each list of a module is a part of its body, in the order of the body. -/
theorem ListsAtTop.collect_eq {program : Program} (h : program.ListsAtTop) :
    program.collect =
      ⟨program.body.filter Statement.isImport, program.body.filter Statement.isInterface,
        program.body.filter Statement.isExport⟩ := by
  rw [collect, h.listed_eq, Collected.ofListed_eq_onList]
  simp only [Collected.onList_flatMap_entry]
  rfl

theorem filter_significant (program : Program) {part : Statement → Bool}
    (h : ∀ s, part s = true → s.isSignificant = true) :
    program.significant.filter part = program.body.filter part := by
  rw [significant, List.filter_filter]
  refine List.filter_congr fun s _ => ?_
  cases hs : part s with
  | false => rfl
  | true => simp [h s hs]

/-- Two programs whose bodies have the same imports, the same interfaces and the
same exports and classes have the same document, or fail in the same way. -/
theorem generate_eq_of_same_parts {p q : Program} (hp : p.ListsAtTop) (hq : q.ListsAtTop)
    (himports : p.significant.filter Statement.isImport =
      q.significant.filter Statement.isImport)
    (hinterfaces : p.significant.filter Statement.isInterface =
      q.significant.filter Statement.isInterface)
    (hexports : p.significant.filter Statement.isExport =
      q.significant.filter Statement.isExport)
    (options : Options) (root moduleId : String) :
    options.generate root moduleId p.collect = options.generate root moduleId q.collect := by
  have himport : ∀ s : Statement, s.isImport = true → s.isSignificant = true := by
    intro s h
    simp [Statement.isSignificant, h]
  have hinterface : ∀ s : Statement, s.isInterface = true → s.isSignificant = true := by
    intro s h
    simp [Statement.isSignificant, h]
  have hexport : ∀ s : Statement, s.isExport = true → s.isSignificant = true := by
    intro s h
    simp [Statement.isSignificant, h]
  rw [filter_significant p himport, filter_significant q himport] at himports
  rw [filter_significant p hinterface, filter_significant q hinterface] at hinterfaces
  rw [filter_significant p hexport, filter_significant q hexport] at hexports
  have hcollect : p.collect = q.collect := by
    rw [hp.collect_eq, hq.collect_eq, himports, hinterfaces, hexports]
  rw [hcollect]

def sampleImport : Statement := .imports ⟨{}, [], { value := "./a" }⟩

def sampleInterface : Statement :=
  .interface ⟨{}, ⟨{}, "I", none, false⟩, [], [], ⟨[], [], []⟩⟩

def sampleFunction (result : FlowType) : Statement :=
  .function ⟨{}, some ⟨{}, "f", none, false⟩, [], some result, [], []⟩

/-- An exported function whose type cannot be written. -/
def sampleExport : Statement :=
  .exportNamed {} (some (sampleFunction (.unsupported "ExistsTypeAnnotation"))) [] none

/-- Lists in the order of a document, and the same lists interleaved with statements
that are on none of them. -/
theorem generate_eq_of_same_parts_interleaved :
    let p : Program := ⟨[sampleImport, sampleInterface, sampleExport]⟩
    let q : Program := ⟨[sampleFunction .number, sampleExport, sampleInterface,
      .unsupported "EmptyStatement" {}, sampleImport]⟩
    p.ListsAtTop ∧ q.ListsAtTop ∧
      p.significant.filter Statement.isImport = q.significant.filter Statement.isImport ∧
      p.significant.filter Statement.isInterface = q.significant.filter Statement.isInterface ∧
      p.significant.filter Statement.isExport = q.significant.filter Statement.isExport ∧
      ({} : Options).generate "pkg" "pkg/b" p.collect =
        ({} : Options).generate "pkg" "pkg/b" q.collect :=
  ⟨by decide, by decide, rfl, rfl, rfl,
    generate_eq_of_same_parts (by decide) (by decide) rfl rfl rfl {} "pkg" "pkg/b"⟩

end Program

end Ambient
