import ApiTrial.Proofs.RoutinePhases
import ApiTrial.Proofs.StepWalk

/-! The phases of a run and its report. A run can only be stopped in setup or while acting, by an
error or by its time limit: before setup it does not wait, and once the actions are done nothing is
left that could wait or fail. So there are three traces, and the report agrees with each. -/
namespace ApiTrial.Scenario

def StopsBehind (entered : List Phase) : Prop := entered = [.setup] ∨ entered = [.setup, .acting]

def EndsBehind (scenario : Scenario) (entered : List Phase) : Except Error (List Verdict) → Prop
  | .ok verdicts => entered = [.setup, .acting, .asserting] ∧
      verdicts.map Verdict.name = scenario.assertions.map Assertion.name
  | .error _ => StopsBehind entered

section Steps
variable (client : Client) (retry : RetryPolicy) (scope : ScopeId)

theorem quiet_runSetupStep (index : Nat) (step : RequestStep) :
    (runSetupStep client retry scope index step).Quiet := by
  have hsend := Trial.quiet_mapError
    (fun e => .fixtureFailed (step.label "setup" index) e.message) _
    (client.quiet_executeWith retry step.request scope)
  apply Trial.quiet_bind _ _ hsend
  intro response
  apply Trial.quiet_bind _ _ (Trial.quiet_exchanged _)
  intro _
  dsimp only
  split
  · exact Trial.quiet_modify _
  · exact Trial.quiet_throw _

theorem quiet_runSetup (index : Nat) (steps : List RequestStep) :
    (runSetup client retry scope index steps).Quiet := by
  induction steps generalizing index with
  | nil => exact Trial.quiet_pure ()
  | cons step rest ih =>
    apply Trial.quiet_bind _ _ (quiet_runSetupStep client retry scope index step)
    exact fun _ => ih _

theorem quiet_runAction (index : Nat) (step : RequestStep) :
    (runAction client retry scope index step).Quiet := by
  apply Trial.quiet_bind _ _ (client.quiet_executeWith retry step.request scope)
  intro response
  apply Trial.quiet_bind _ _ (Trial.quiet_exchanged _)
  intro _
  apply Trial.quiet_bind _ _ (Trial.quiet_modify _)
  exact fun _ => Trial.quiet_pure _

theorem quiet_runActions (index : Nat) (steps : List RequestStep) :
    (runActions client retry scope index steps).Quiet := by
  induction steps generalizing index with
  | nil => exact Trial.quiet_pure []
  | cons step rest ih =>
    apply Trial.quiet_bind _ _ (quiet_runAction client retry scope index step)
    intro labelled
    apply Trial.quiet_bind _ _ (ih _)
    exact fun _ => Trial.quiet_pure _

end Steps

theorem name_verdict (a : Assertion) (responses : List Labelled) (value? : String → Option Json) :
    (a.verdict responses value?).name = a.name := by
  rw [Assertion.verdict]
  cases a.check responses value? <;> rfl

theorem names_verdicts (scenario : Scenario) (scope : ScopeId) (responses : List Labelled)
    (world : World) :
    (scenario.verdicts scope responses world).map Verdict.name =
      scenario.assertions.map Assertion.name := by
  rw [verdicts, List.map_map]
  exact List.map_congr_left fun a _ => name_verdict a responses _

def StoppedIn (phase : Phase) (trace : List Phase) : Prop :=
  (phase = .setup ∧ trace = [.idle, .setup, .failed, .teardown, .done]) ∨
  (phase = .acting ∧ trace = [.idle, .setup, .acting, .failed, .teardown, .done])

def judgedTrace : List Phase := [.idle, .setup, .acting, .asserting, .teardown, .done]

structure Lawful (trace : List Phase) : Prop where
  begins : trace.head? = some .idle
  ends : [.teardown, .done] <:+ trace
  moves : trace.IsChain fun p q => p.canMoveTo q = true
  tornOnce : trace.count .teardown = 1
  doneOnce : trace.count .done = 1

theorem lawful_judgedTrace : Lawful judgedTrace := by
  constructor <;> decide

theorem lawful_of_stoppedIn (phase : Phase) (trace : List Phase) (h : StoppedIn phase trace) :
    Lawful trace := by
  rcases h with ⟨-, rfl⟩ | ⟨-, rfl⟩ <;> constructor <;> decide

/-- A trace shows failure once, so the phase that stands in front of it is the one that failed. -/
theorem getElem?_of_stoppedIn (phase : Phase) (t : List Phase) (h : StoppedIn phase t) (i : Nat)
    (hi : t[i + 1]? = some .failed) : t[i]? = some phase := by
  rcases h with ⟨rfl, rfl⟩ | ⟨rfl, rfl⟩
  · have hall : ∀ i < 4, [Phase.idle, .setup, .failed, .teardown, .done][i + 1]? = some .failed →
        [Phase.idle, .setup, .failed, .teardown, .done][i]? = some .setup := by
      decide
    have hlt := (List.getElem?_eq_some_iff.mp hi).1
    exact hall i (Nat.lt_of_succ_lt_succ hlt) hi
  · have hall : ∀ i < 5,
        [Phase.idle, .setup, .acting, .failed, .teardown, .done][i + 1]? = some .failed →
        [Phase.idle, .setup, .acting, .failed, .teardown, .done][i]? = some .acting := by
      decide
    have hlt := (List.getElem?_eq_some_iff.mp hi).1
    exact hall i (Nat.lt_of_succ_lt_succ hlt) hi

section Run
variable (runner : Runner) (network : Network) (scope : ScopeId) (scenario : Scenario)
  (world : World)

theorem quiet_buildFixtures (hq : ∀ fixture ∈ runner.registry, fixture.Quiet) :
    (buildFixtures runner scenario scope).Quiet := by
  rw [buildFixtures]
  split
  · exact Trial.quiet_pure ()
  · apply Trial.quiet_bind _ _ (Fixture.quiet_buildAll runner.registry _ scope hq _)
    exact fun _ => Trial.quiet_pure ()

/-- Each phase is entered behind the one before it, and its work is done before the next. -/
theorem passes_runPhases (hq : ∀ fixture ∈ runner.registry, fixture.Quiet) :
    (scenario.runPhases runner scope).run.Passes StopsBehind (EndsBehind scenario) [] := by
  have hsetup : StopsBehind [.setup] := Or.inl rfl
  have hacting : StopsBehind [.setup, .acting] := Or.inr rfl
  apply Trial.passes_enter
  apply Trial.passes_bind_of_quiet _ _ _ _ _ (quiet_buildFixtures runner scope scenario hq) hsetup
    fun _ => hsetup
  intro _
  apply Trial.passes_bind_of_quiet _ _ _ _ _ (quiet_runSetup runner.client _ scope 0 _) hsetup
    fun _ => hsetup
  intro _
  apply Trial.passes_enter
  apply Trial.passes_bind_of_quiet _ _ _ _ _ (quiet_runActions runner.client _ scope 0 _) hacting
    fun _ => hacting
  intro responses
  apply Trial.passes_enter
  intro w
  exact ⟨rfl, names_verdicts scenario scope responses w⟩

/-- A run is stopped in a phase, which its report tells, or comes to its verdicts. -/
theorem report_cases (hq : ∀ fixture ∈ runner.registry, fixture.Quiet) :
    let report := ((scenario.run runner scope).run network world).1
    (∃ failure, report.failure = some failure ∧ report.verdicts = [] ∧
      StoppedIn failure.phase report.trace) ∨
    (report.failure = none ∧ report.trace = judgedTrace ∧
      report.verdicts.map Verdict.name = scenario.assertions.map Assertion.name) := by
  intro report
  obtain ⟨seen, hcollect, hfailure, hverdicts, htrace, -⟩ :=
    run_eq runner network scope scenario world
  have hstop := Routine.stopped_of_passes _ _ _ network _ (scenario.timeLimit runner) world
    (passes_runPhases runner scope scenario hq)
  rw [List.nil_append, hcollect] at hstop
  revert hfailure hverdicts htrace hstop
  generalize (((scenario.runPhases runner scope).run.within
    (scenario.timeLimit runner)).run network world).1 = outcome
  intro hfailure hverdicts htrace hstop
  have hstopped (failure : PhaseFailure) (hs : StopsBehind (seen.filterMap Event.phase?))
      (hp : failure.phase = (phasesEntered seen).getLast?.getD .idle)
      (ht : report.trace = phasesEntered seen ++ [.failed] ++ [.teardown, .done]) :
      StoppedIn failure.phase report.trace := by
    rw [hp, ht, phasesEntered]
    rcases hs with hs | hs <;> rw [hs]
    · exact Or.inl ⟨rfl, rfl⟩
    · exact Or.inr ⟨rfl, rfl⟩
  match outcome with
  | none => exact Or.inl ⟨_, hfailure, hverdicts, hstopped _ hstop rfl htrace⟩
  | some (.error e) => exact Or.inl ⟨_, hfailure, hverdicts, hstopped _ hstop rfl htrace⟩
  | some (.ok verdicts) =>
    obtain ⟨hphases, hnames⟩ := hstop
    have hall : report.verdicts = verdicts := hverdicts
    have hlast : report.trace = phasesEntered seen ++ [] ++ [.teardown, .done] := htrace
    rw [phasesEntered, hphases] at hlast
    exact Or.inr ⟨hfailure, hlast, by rw [hall, hnames]⟩

/-- The trace of every run begins idle, moves on as phases may, and ends in teardown and done, each
of which it enters once. It shows a failed phase exactly if the report tells a failure, which is one
of setup or of acting, namely of the phase in front of it; such a report has no verdicts and has not
passed. Any other report has one verdict for each assertion, in order. -/
theorem run_lifecycle (hq : ∀ fixture ∈ runner.registry, fixture.Quiet) :
    let report := ((scenario.run runner scope).run network world).1
    report.trace.head? = some .idle ∧ [.teardown, .done] <:+ report.trace ∧
    report.trace.IsChain (fun p q => p.canMoveTo q = true) ∧
    report.trace.count .teardown = 1 ∧ report.trace.count .done = 1 ∧
    (.failed ∈ report.trace ↔ report.failure.isSome = true) ∧
    (∀ failure, report.failure = some failure →
      (failure.phase = .setup ∨ failure.phase = .acting) ∧
      (∀ i, report.trace[i + 1]? = some .failed → report.trace[i]? = some failure.phase) ∧
      report.verdicts = [] ∧ report.passed = false) ∧
    (report.failure = none →
      report.verdicts.map Verdict.name = scenario.assertions.map Assertion.name) := by
  intro report
  rcases report_cases runner network scope scenario world hq with
    ⟨failure, hf, hv, hs⟩ | ⟨hf, ht, hv⟩
  · have hlaw := lawful_of_stoppedIn failure.phase report.trace hs
    have hphase : failure.phase = .setup ∨ failure.phase = .acting := hs.imp And.left And.left
    have hfailed : .failed ∈ report.trace := by
      rcases hs with ⟨-, ht⟩ | ⟨-, ht⟩ <;> rw [ht] <;> decide
    have hsome : report.failure.isSome = true := Option.isSome_iff_exists.mpr ⟨failure, hf⟩
    have hpassed : report.passed = false := by
      rw [Report.passed, Option.isNone_eq_false_iff.mpr hsome, Bool.false_and]
    refine ⟨hlaw.begins, hlaw.ends, hlaw.moves, hlaw.tornOnce, hlaw.doneOnce,
      iff_of_true hfailed hsome, ?_, ?_⟩
    · intro told htold
      have he : failure = told := Option.some.inj (hf.symm.trans htold)
      rw [← he]
      exact ⟨hphase, getElem?_of_stoppedIn failure.phase report.trace hs, hv, hpassed⟩
    · exact fun hn => absurd (hf.symm.trans hn) (Option.some_ne_none failure)
  · have hlaw : Lawful report.trace := by
      rw [ht]
      exact lawful_judgedTrace
    have hfailed : .failed ∉ report.trace := by
      rw [ht]
      decide
    have hnone : ¬ report.failure.isSome = true := by
      rw [hf]
      exact Bool.false_ne_true
    refine ⟨hlaw.begins, hlaw.ends, hlaw.moves, hlaw.tornOnce, hlaw.doneOnce,
      iff_of_false hfailed hnone, ?_, fun _ => hv⟩
    exact fun told htold => absurd (htold.symm.trans hf) (Option.some_ne_none told)

end Run

def ticketingRunner : Runner where
  registry := Ticketing.fixtures
  client := .new "http://api.test" 30000

def hasty : Scenario where
  name := "hasty"
  timeoutSecs := some 1
  actions := [{ request := .new .get "/things" }]
  assertions := [.ofStatus "found" 200]

/-- A server that never answers: the time limit strikes while acting. -/
theorem run_lifecycle_hasty :
    let report := ((hasty.run ticketingRunner 0).run (fun _ _ => .silent)
      ⟨[⟨"root", none, []⟩], [], []⟩).1
    report.failure = some ⟨.acting, .timeout 1000⟩ ∧ report.trace[3]? = some .failed ∧
    report.trace[2]? = some .acting ∧ report.verdicts = [] ∧ report.passed = false := by
  intro report
  have hf : report.failure = some ⟨.acting, .timeout 1000⟩ := by decide +kernel
  have ht : report.trace[3]? = some .failed := by decide +kernel
  have hq := Registry.quiet_of_isStandard Ticketing.fixtures fun _ h => Or.inl h
  have h := run_lifecycle ticketingRunner (fun _ _ => .silent) 0 hasty
    ⟨[⟨"root", none, []⟩], [], []⟩ hq
  obtain ⟨-, -, -, -, -, -, hfailure, -⟩ := h
  obtain ⟨-, hbefore, hverdicts, hpassed⟩ := hfailure _ hf
  exact ⟨hf, ht, hbefore 2 ht, hverdicts, hpassed⟩

end ApiTrial.Scenario
