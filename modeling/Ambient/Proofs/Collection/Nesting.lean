import Ambient.Proofs.Collection.Walk

namespace Ambient

/-!
# Nesting of scopes

A collector may be driven in any order. It reports nothing exactly when the
scopes that are entered and left are nested one in the other; otherwise the
report names the innermost open scope. A scope counts as open by position: a
scope that is left out of turn still closes the innermost one.
-/

namespace WalkStep

def onScope (step : WalkStep) : Bool := step.occurrence.statement.opensScope

/-- The steps of a walk that enter or leave a scope. -/
def scopeSteps (steps : List WalkStep) : List WalkStep := steps.filter onScope

theorem scopeSteps_cons_of_pos {step : WalkStep} (h : step.onScope = true)
    (steps : List WalkStep) : scopeSteps (step :: steps) = step :: scopeSteps steps :=
  List.filter_cons_of_pos h

theorem scopeSteps_cons_of_neg {step : WalkStep} (h : step.onScope = false)
    (steps : List WalkStep) : scopeSteps (step :: steps) = scopeSteps steps :=
  List.filter_cons_of_neg (by simp [h])

theorem onScope_of_mem_scopeSteps {step : WalkStep} {steps : List WalkStep}
    (h : step ∈ scopeSteps steps) : step.onScope = true := (List.mem_filter.mp h).2

/-- Steps in which scopes are entered and left in pairs, one pair inside or
behind the other; `closes` says what may be left where something was entered. -/
inductive Paired (closes : Occurrence → Occurrence → Prop) : List WalkStep → Prop
  | nil : Paired closes []
  | around {entered left : Occurrence} {inside rest : List WalkStep}
      (opens : entered.statement.opensScope = true) (leaves : left.statement.opensScope = true)
      (closed : closes entered left) :
      Paired closes inside → Paired closes rest →
      Paired closes (.enter entered :: inside ++ .exit left :: rest)

/-- Every scope is left where it was entered. -/
abbrev Nested : List WalkStep → Prop := Paired Eq

/-- Scopes are left as often as they are entered, never too early, and whichever
they are. -/
abbrev Even : List WalkStep → Prop := Paired fun _ _ => True

namespace Paired

variable {closes : Occurrence → Occurrence → Prop}

theorem append {xs ys : List WalkStep} (hx : Paired closes xs) (hy : Paired closes ys) :
    Paired closes (xs ++ ys) := by
  induction hx with
  | nil => exact hy
  | around opens leaves closed hinside _ _ ihrest =>
      simpa using around opens leaves closed hinside ihrest

theorem enclose {entered left : Occurrence} {inside : List WalkStep}
    (opens : entered.statement.opensScope = true) (leaves : left.statement.opensScope = true)
    (closed : closes entered left) (hinside : Paired closes inside) :
    Paired closes (.enter entered :: inside ++ [.exit left]) :=
  around opens leaves closed hinside nil

theorem mono {closes' : Occurrence → Occurrence → Prop} {steps : List WalkStep}
    (h : Paired closes steps)
    (hcloses : ∀ entered left, .enter entered ∈ steps → .exit left ∈ steps →
      closes entered left → closes' entered left) : Paired closes' steps := by
  induction h with
  | nil => exact .nil
  | @around entered left inside rest opens leaves closed _ _ ihinside ihrest =>
      refine .around opens leaves (hcloses entered left (by simp) (by simp) closed)
        (ihinside fun e l he hl => hcloses e l ?_ ?_) (ihrest fun e l he hl => hcloses e l ?_ ?_)
      all_goals simp_all

end Paired

/-- The scope that was entered last among those that are still open after some
steps. -/
def InnermostOpen (steps : List WalkStep) (o : Occurrence) : Prop :=
  ∃ before inside, scopeSteps steps = before ++ .enter o :: inside ∧ Even inside

end WalkStep

/-- Scopes that are open after some steps, the innermost first: behind each one
only pairs follow, and what is before the outermost one is as `base` says. -/
def StillOpen (closes : Occurrence → Occurrence → Prop) (base : List WalkStep → Prop) :
    List Occurrence → List WalkStep → Prop
  | [], steps => base steps
  | o :: scopes, steps => o.statement.opensScope = true ∧
      ∃ before inside, steps = before ++ .enter o :: inside ∧
        WalkStep.Paired closes inside ∧ StillOpen closes base scopes before

namespace ScopeCollector

open WalkStep

theorem step_of_not_onScope (c : ScopeCollector) {step : WalkStep} (h : step.onScope = false) :
    (c.step step).1.scopes = c.scopes ∧ (c.step step).2 = none := by
  cases step with
  | enter o =>
      have ho : o.statement.opensScope = false := h
      simp [ScopeCollector.step, enter, ho]
  | exit o =>
      have ho : o.statement.opensScope = false := h
      simp [ScopeCollector.step, exit, ho]

theorem exit_of_empty {c : ScopeCollector} {o : Occurrence} (ho : o.statement.opensScope = true)
    (h : c.scopes = []) : c.exit o = (c, some (.emptyStack o.statement.label)) := by
  simp [exit, ho, h]

theorem exit_of_cons {c : ScopeCollector} {o innermost : Occurrence} {scopes : List Occurrence}
    (ho : o.statement.opensScope = true) (h : c.scopes = innermost :: scopes) :
    c.exit o = ({ c with scopes }, if innermost.path = o.path then none
      else some (.imbalance innermost.statement.label o.statement.label)) := by
  simp [exit, ho, h]

theorem step_congr {c d : ScopeCollector} (h : c.scopes = d.scopes) (step : WalkStep) :
    (c.step step).1.scopes = (d.step step).1.scopes ∧ (c.step step).2 = (d.step step).2 := by
  cases step with
  | enter o => simp [ScopeCollector.step, enter, h]
  | exit o =>
      cases ho : o.statement.opensScope with
      | false => simp [ScopeCollector.step, exit, ho, h]
      | true =>
          cases hd : d.scopes with
          | nil => simp [ScopeCollector.step, exit_of_empty ho hd, exit_of_empty ho (h.trans hd), h]
          | cons innermost scopes =>
              simp [ScopeCollector.step, exit_of_cons ho hd, exit_of_cons ho (h.trans hd)]

theorem run_congr {c d : ScopeCollector} (h : c.scopes = d.scopes) (steps : List WalkStep) :
    (c.run steps).1.scopes = (d.run steps).1.scopes ∧ (c.run steps).2 = (d.run steps).2 := by
  induction steps generalizing c d with
  | nil => exact ⟨h, rfl⟩
  | cons step steps ih =>
      obtain ⟨hscopes, hreport⟩ := step_congr h step
      obtain ⟨hrun, hreports⟩ := ih hscopes
      exact ⟨hrun, by simp [run, hreport, hreports]⟩

theorem run_scopeSteps (c : ScopeCollector) (steps : List WalkStep) :
    (c.run steps).1.scopes = (c.run (scopeSteps steps)).1.scopes ∧
      ((∀ report ∈ (c.run steps).2, report = none) ↔
        ∀ report ∈ (c.run (scopeSteps steps)).2, report = none) := by
  induction steps generalizing c with
  | nil => exact ⟨rfl, Iff.rfl⟩
  | cons step steps ih =>
      obtain ⟨hscopes, hreports⟩ := ih (c.step step).1
      cases h : step.onScope with
      | true =>
          rw [scopeSteps_cons_of_pos h]
          refine ⟨hscopes, ?_⟩
          simp only [run, List.mem_cons, forall_eq_or_imp, hreports]
      | false =>
          obtain ⟨hsame, hnone⟩ := step_of_not_onScope c h
          obtain ⟨hrun, houtcomes⟩ := run_congr hsame (scopeSteps steps)
          rw [scopeSteps_cons_of_neg h, ← houtcomes, ← hrun, ← hreports, ← hscopes]
          simp [run, hnone]

theorem scopes_run_of_paired {closes : Occurrence → Occurrence → Prop} {steps : List WalkStep}
    (h : Paired closes steps) (c : ScopeCollector) : (c.run steps).1.scopes = c.scopes := by
  induction h generalizing c with
  | nil => rfl
  | @around entered left inside rest opens leaves _ _ _ ihinside ihrest =>
      have hopen : ((c.enter entered).run inside).1.scopes = entered :: c.scopes := by
        rw [ihinside]
        simp [enter, opens]
      calc
        _ = ((((c.enter entered).run inside).1.exit left).1.run rest).1.scopes := by
          simp [run, run_append, ScopeCollector.step]
        _ = (((c.enter entered).run inside).1.exit left).1.scopes := ihrest _
        _ = c.scopes := by rw [exit_of_cons leaves hopen]

theorem reports_run_of_nested {steps : List WalkStep} (h : Nested steps) (c : ScopeCollector) :
    ∀ report ∈ (c.run steps).2, report = none := by
  induction h generalizing c with
  | nil => simp [run]
  | @around entered left inside rest opens leaves closed hinside _ ihinside ihrest =>
      have hopen : ((c.enter entered).run inside).1.scopes = entered :: c.scopes := by
        rw [scopes_run_of_paired hinside]
        simp [enter, opens]
      have hleft := exit_of_cons leaves hopen
      rw [if_pos (by rw [closed])] at hleft
      intro report hmem
      have hcases : report = none ∨ report ∈ ((c.enter entered).run inside).2 ∨ report = none ∨
          report ∈ ((((c.enter entered).run inside).1.exit left).1.run rest).2 := by
        simpa [run, run_append, ScopeCollector.step, hleft] using hmem
      rcases hcases with hentered | hinside | hexit | hrest
      · exact hentered
      · exact ihinside _ report hinside
      · exact hexit
      · exact ihrest _ report hrest

section

variable {closes : Occurrence → Occurrence → Prop} {base : List WalkStep → Prop}

theorem stillOpen_append (hbase : ∀ xs ys, base xs → Paired closes ys → base (xs ++ ys))
    {scopes : List Occurrence} {xs ys : List WalkStep} (hx : StillOpen closes base scopes xs)
    (hy : Paired closes ys) : StillOpen closes base scopes (xs ++ ys) := by
  cases scopes with
  | nil => exact hbase xs ys hx hy
  | cons o scopes =>
      obtain ⟨ho, before, inside, rfl, hinside, hopen⟩ := hx
      exact ⟨ho, before, inside ++ ys, by simp, hinside.append hy, hopen⟩

/-- Leaving `o` fits what is open: with no scope open it may stand where `base`
says, and otherwise it may close the innermost one. -/
def Fits (closes : Occurrence → Occurrence → Prop) (base : List WalkStep → Prop)
    (scopes : List Occurrence) (o : Occurrence) : Prop :=
  match scopes with
  | [] => ∀ steps, base steps → base (steps ++ [.exit o])
  | innermost :: _ => closes innermost o

/-- Entering a scope opens it, and leaving one makes a pair of it and the
innermost open one. -/
theorem stillOpen_step (hbase : ∀ xs ys, base xs → Paired closes ys → base (xs ++ ys))
    {c : ScopeCollector} {steps : List WalkStep} (h : StillOpen closes base c.scopes steps)
    {step : WalkStep} (hstep : step.onScope = true)
    (hfits : ∀ o, step = .exit o → Fits closes base c.scopes o) :
    StillOpen closes base (c.step step).1.scopes (steps ++ [step]) := by
  cases step with
  | enter o =>
      have ho : o.statement.opensScope = true := hstep
      simp only [ScopeCollector.step, enter, ho, if_true]
      exact ⟨ho, steps, [], by simp, .nil, h⟩
  | exit o =>
      have ho : o.statement.opensScope = true := hstep
      have hfit := hfits o rfl
      cases hc : c.scopes with
      | nil =>
          rw [hc] at h hfit
          simp only [ScopeCollector.step, exit_of_empty ho hc, hc]
          exact hfit steps h
      | cons innermost scopes =>
          rw [hc] at h hfit
          obtain ⟨hi, before, inside, rfl, hinside, hopen⟩ := h
          simp only [ScopeCollector.step, exit_of_cons ho hc]
          simpa using stillOpen_append hbase hopen (Paired.enclose hi ho hfit hinside)

theorem stillOpen_run (hbase : ∀ xs ys, base xs → Paired closes ys → base (xs ++ ys))
    {c : ScopeCollector} {before steps : List WalkStep}
    (h : StillOpen closes base c.scopes before) (hsteps : ∀ step ∈ steps, step.onScope = true)
    (hfits : ∀ d : ScopeCollector, ∀ o, .exit o ∈ steps → (d.exit o).2 ∈ (c.run steps).2 →
      Fits closes base d.scopes o) :
    StillOpen closes base (c.run steps).1.scopes (before ++ steps) := by
  induction steps generalizing c before with
  | nil => simpa [run] using h
  | cons step steps ih =>
      have hfirst := stillOpen_step hbase h (hsteps step List.mem_cons_self) fun o ho => by
        subst ho
        exact hfits c o List.mem_cons_self (by simp [run, ScopeCollector.step])
      have hrest := ih hfirst (fun s hs => hsteps s (List.mem_cons_of_mem step hs))
        fun d o ho hd => hfits d o (List.mem_cons_of_mem step ho) (by simp [run, hd])
      simpa [run] using hrest

end

/-- The innermost scope on the stack is the one that was entered last among
those still open. -/
theorem head?_scopes_eq_some_iff (steps : List WalkStep) (o : Occurrence) :
    (({} : ScopeCollector).run steps).1.scopes.head? = some o ↔ InnermostOpen steps o := by
  have hrun := (run_scopeSteps {} steps).1
  constructor
  · intro hhead
    -- Whatever closes a scope is let pass here: an exit that is reported pops the stack too.
    have hopen : StillOpen (fun _ _ => True) (fun _ => True)
        (({} : ScopeCollector).run (scopeSteps steps)).1.scopes ([] ++ scopeSteps steps) :=
      stillOpen_run (fun _ _ _ _ => trivial) trivial
        (fun _ h => onScope_of_mem_scopeSteps h)
        fun d _ _ _ => by cases hd : d.scopes <;> simp [Fits]
    rw [← hrun] at hopen
    obtain ⟨scopes, hscopes⟩ : ∃ scopes, (({} : ScopeCollector).run steps).1.scopes =
        o :: scopes := by simpa [List.head?_eq_some_iff] using hhead
    rw [hscopes] at hopen
    obtain ⟨_, before, inside, hsplit, hinside, _⟩ := hopen
    exact ⟨before, inside, hsplit, hinside⟩
  · rintro ⟨before, inside, hsplit, hinside⟩
    have hmem : WalkStep.enter o ∈ scopeSteps steps := by simp [hsplit]
    have ho : o.statement.opensScope = true := onScope_of_mem_scopeSteps hmem
    have hentered : (((({} : ScopeCollector).run before).1.enter o)).scopes =
        o :: (({} : ScopeCollector).run before).1.scopes := by
      simp [enter, ho]
    rw [hrun, hsplit, run_append]
    simp [run, ScopeCollector.step, scopes_run_of_paired hinside, hentered]

theorem scopes_eq_nil_iff (steps : List WalkStep) :
    (({} : ScopeCollector).run steps).1.scopes = [] ↔ ∀ o, ¬ InnermostOpen steps o := by
  rw [← List.head?_eq_none_iff, Option.eq_none_iff_forall_ne_some]
  simp only [ne_eq, head?_scopes_eq_some_iff]

theorem finish_eq_ok_iff (c : ScopeCollector) :
    (∃ collected, c.finish = .ok collected) ↔ c.scopes = [] := by
  cases hs : c.scopes <;> simp [finish, hs]

theorem getElem?_reports (before : List WalkStep) (step : WalkStep) (after : List WalkStep) :
    (({} : ScopeCollector).run (before ++ step :: after)).2[before.length]? =
      some ((({} : ScopeCollector).run before).1.step step).2 := by
  have hlength : ∀ (c : ScopeCollector) (steps : List WalkStep),
      (c.run steps).2.length = steps.length := by
    intro c steps
    induction steps generalizing c with
    | nil => rfl
    | cons s steps ih => simp [run, ih]
  rw [run_append, List.getElem?_append_right (by simp [hlength]), hlength]
  simp [run]

end ScopeCollector

namespace Program

open WalkStep

/-- The steps of a walk over statements of a program, in any order. -/
def Meets (program : Program) (steps : List WalkStep) : Prop :=
  ∀ step ∈ steps, program.at? step.occurrence.path = some step.occurrence

theorem Meets.eq_of_path_eq {program : Program} {steps : List WalkStep}
    (h : program.Meets steps) {s t : WalkStep} (hs : s ∈ steps) (ht : t ∈ steps)
    (hpath : s.occurrence.path = t.occurrence.path) : s.occurrence = t.occurrence := by
  have hsame := h s hs
  rw [hpath, h t ht] at hsame
  exact (Option.some.inj hsame).symm

/-- A fresh collector reports nothing and can be finished exactly when the scopes are
nested. -/
theorem accepts_iff_nested {program : Program} {steps : List WalkStep}
    (h : program.Meets steps) :
    ((∀ report ∈ (({} : ScopeCollector).run steps).2, report = none) ∧
      (({} : ScopeCollector).run steps).1.scopes = []) ↔ Nested (scopeSteps steps) := by
  obtain ⟨hscopes, hreports⟩ := ScopeCollector.run_scopeSteps {} steps
  rw [hscopes, hreports]
  constructor
  · rintro ⟨hnone, hempty⟩
    -- Without a report every exit closes a scope at its own place, which says which one it is.
    have hopen : StillOpen (fun a b => a.path = b.path) (Paired fun a b => a.path = b.path)
        (({} : ScopeCollector).run (scopeSteps steps)).1.scopes ([] ++ scopeSteps steps) := by
      refine ScopeCollector.stillOpen_run (fun _ _ => Paired.append) Paired.nil
        (fun _ hs => onScope_of_mem_scopeSteps hs) fun d o ho hd => ?_
      have hreport : (d.exit o).2 = none := hnone _ hd
      have hscope : o.statement.opensScope = true := onScope_of_mem_scopeSteps ho
      cases hds : d.scopes with
      | nil => simp [ScopeCollector.exit_of_empty hscope hds] at hreport
      | cons innermost scopes =>
          simpa [ScopeCollector.exit_of_cons hscope hds, ScopeCollector.Fits] using hreport
    rw [hempty] at hopen
    exact Paired.mono hopen fun entered left he hl hpath =>
      h.eq_of_path_eq (List.mem_filter.mp he).1 (List.mem_filter.mp hl).1 hpath
  · intro hnested
    exact ⟨ScopeCollector.reports_run_of_nested hnested {},
      ScopeCollector.scopes_run_of_paired hnested {}⟩

/-- Leaving a scope is reported unless it is the innermost open one. -/
theorem report_exit {program : Program} {before : List WalkStep} {o : Occurrence}
    (h : program.Meets (before ++ [.exit o])) (ho : o.statement.opensScope = true) :
    let report := ((({} : ScopeCollector).run before).1.exit o).2
    (report = some (.emptyStack o.statement.label) ↔ ∀ inner, ¬ InnermostOpen before inner) ∧
      ∀ inner, InnermostOpen before inner → (inner = o → report = none) ∧
        (inner ≠ o → report = some (.imbalance inner.statement.label o.statement.label)) := by
  intro report
  cases hopen : (({} : ScopeCollector).run before).1.scopes with
  | nil =>
      have hnone := (ScopeCollector.scopes_eq_nil_iff before).mp hopen
      refine ⟨by simp [report, ScopeCollector.exit_of_empty ho hopen, hnone], ?_⟩
      exact fun inner hinner => absurd hinner (hnone inner)
  | cons innermost scopes =>
      have hhead : (({} : ScopeCollector).run before).1.scopes.head? = some innermost := by
        simp [hopen]
      have hinner := (ScopeCollector.head?_scopes_eq_some_iff before innermost).mp hhead
      have hunique : ∀ inner, InnermostOpen before inner → inner = innermost := fun inner hin =>
        Option.some.inj
          (((ScopeCollector.head?_scopes_eq_some_iff before inner).mpr hin).symm.trans hhead)
      have hsame : innermost.path = o.path ↔ innermost = o := by
        refine ⟨fun hpath => ?_, fun heq => by rw [heq]⟩
        obtain ⟨outer, inside, hsplit, _⟩ := hinner
        have hmem : WalkStep.enter innermost ∈ scopeSteps before := by simp [hsplit]
        exact h.eq_of_path_eq (s := .enter innermost) (t := .exit o)
          (List.mem_append_left _ (List.mem_filter.mp hmem).1) (by simp) hpath
      have hreport : report = if innermost.path = o.path then none
          else some (.imbalance innermost.statement.label o.statement.label) := by
        simp [report, ScopeCollector.exit_of_cons ho hopen]
      rw [hreport]
      refine ⟨?_, fun inner hin => ?_⟩
      · have hsome : ¬ ∀ inner, ¬ InnermostOpen before inner := fun hall => hall _ hinner
        by_cases hpath : innermost.path = o.path <;> simp [hpath, hsome]
      · rw [hunique inner hin]
        exact ⟨fun heq => by simp [heq], fun hne => by simp [hsame, hne]⟩

theorem finish_run (steps : List WalkStep) :
    let finished := (({} : ScopeCollector).run steps).1.finish
    ((∃ collected, finished = .ok collected) ↔ ∀ inner, ¬ InnermostOpen steps inner) ∧
      ∀ inner, InnermostOpen steps inner →
        finished = .error (.imbalance inner.statement.label "end of module") := by
  refine ⟨?_, fun inner hinner => ?_⟩
  · rw [← ScopeCollector.scopes_eq_nil_iff, ScopeCollector.finish_eq_ok_iff]
  · have hhead := (ScopeCollector.head?_scopes_eq_some_iff steps inner).mpr hinner
    obtain ⟨scopes, hscopes⟩ := List.head?_eq_some_iff.mp hhead
    simp [ScopeCollector.finish, hscopes]

/-- A walk over statements of a program in any order is accepted exactly when its
scopes are nested, each one left where it was entered. A scope that is left while
none is open is reported as such; if another one is the innermost open scope, that
one is reported, and so is a scope that is still open at the end. Other
statements do not count. -/
theorem walk_accepted_iff (program : Program) (steps : List WalkStep)
    (h : program.Meets steps) :
    let walked := ({} : ScopeCollector).run steps
    (((∀ report ∈ walked.2, report = none) ∧ ∃ collected, walked.1.finish = .ok collected) ↔
      Nested (scopeSteps steps)) ∧
    (∀ before o after, steps = before ++ .exit o :: after → o.statement.opensScope = true →
      (walked.2[before.length]? = some (some (.emptyStack o.statement.label)) ↔
        ∀ inner, ¬ InnermostOpen before inner) ∧
      ∀ inner, InnermostOpen before inner →
        (inner = o → walked.2[before.length]? = some none) ∧
        (inner ≠ o → walked.2[before.length]? =
          some (some (.imbalance inner.statement.label o.statement.label)))) ∧
    ((∃ collected, walked.1.finish = .ok collected) ↔ ∀ inner, ¬ InnermostOpen steps inner) ∧
    (∀ inner, InnermostOpen steps inner →
      walked.1.finish = .error (.imbalance inner.statement.label "end of module")) ∧
    (∀ before step after, steps = before ++ step :: after → step.onScope = false →
      (({} : ScopeCollector).run (before ++ [step])).1.depth =
        (({} : ScopeCollector).run before).1.depth ∧
      walked.2[before.length]? = some none) := by
  intro walked
  refine ⟨?_, ?_, (finish_run steps).1, (finish_run steps).2, ?_⟩
  · rw [ScopeCollector.finish_eq_ok_iff]
    exact accepts_iff_nested h
  · rintro before o after rfl ho
    have hreport : walked.2[before.length]? =
        some ((({} : ScopeCollector).run before).1.exit o).2 :=
      ScopeCollector.getElem?_reports before (.exit o) after
    have hmeets : program.Meets (before ++ [.exit o]) := fun step hstep => h step (by
      rcases List.mem_append.mp hstep with hbefore | hlast
      · exact List.mem_append_left _ hbefore
      · simp_all)
    simpa only [hreport, Option.some.injEq] using report_exit hmeets ho
  · rintro before step after rfl hstep
    obtain ⟨hscopes, hnone⟩ :=
      ScopeCollector.step_of_not_onScope (({} : ScopeCollector).run before).1 hstep
    refine ⟨?_, (ScopeCollector.getElem?_reports before step after).trans (by rw [hnone])⟩
    simp [ScopeCollector.depth, ScopeCollector.run_append, ScopeCollector.run, hscopes]

def emptyClass (name : String) : Statement :=
  .classes ⟨{}, some ⟨{}, name, none, false⟩, none, [], [], [], [], []⟩

/-- Two classes that say the same, one entered and the other one left. -/
theorem walk_accepted_iff_twins :
    let twins : Program := ⟨[emptyClass "C", emptyClass "C"]⟩
    let crossed : List WalkStep := [.enter ⟨[0], emptyClass "C"⟩, .exit ⟨[1], emptyClass "C"⟩]
    twins.Meets crossed ∧ ¬ Nested (scopeSteps crossed) ∧
      (({} : ScopeCollector).run crossed).2 =
        [none, some (.imbalance "ClassDeclaration@0..0" "ClassDeclaration@0..0")] := by
  intro twins crossed
  have hmeets : twins.Meets crossed := by
    intro step hstep
    have hcases : step = .enter ⟨[0], emptyClass "C"⟩ ∨ step = .exit ⟨[1], emptyClass "C"⟩ := by
      simpa [crossed] using hstep
    rcases hcases with rfl | rfl <;> rfl
  have hreports : (({} : ScopeCollector).run crossed).2 =
      [none, some (.imbalance "ClassDeclaration@0..0" "ClassDeclaration@0..0")] := by rfl
  refine ⟨hmeets, fun hnested => ?_, hreports⟩
  obtain ⟨hnone, _⟩ := (walk_accepted_iff twins crossed hmeets).1.mpr hnested
  have hlast := hnone (some (.imbalance "ClassDeclaration@0..0" "ClassDeclaration@0..0"))
    (by simp [hreports])
  cases hlast

end Program

end Ambient
