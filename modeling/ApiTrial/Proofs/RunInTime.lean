import ApiTrial.Proofs.RunExchanges

/-! Runs that are in time. A trial of several parts goes as its parts do, one after the other, and a
run that is not cut off by its time limit reports what its phases came to. For a scenario of actions
alone the report is that of the actions: there is nothing to tear down, and nothing else can fail.
-/
namespace ApiTrial

theorem Routine.phases_of_quiet {α : Type} (network : Network) (routine : Routine α) (world : World)
    (h : routine.Quiet) :
    (Mark.events (routine.course network world)).filterMap Event.phase? = [] := by
  induction h generalizing world with
  | done a => rfl
  | act change next hn ih => exact ih world (change world)
  | send request patience next hn ih => exact ih _ _
  | pause time next hn ih => exact ih world
  | note event next he hn ih =>
    have hcourse : Mark.events ((note event next).course network world) =
        event :: Mark.events (next.course network world) := rfl
    rw [hcourse, List.filterMap_cons_none he]
    exact ih world

structure Client.Gets (client : Client) (network : Network) (sent : List WireRequest)
    (request : ResolvedRequest) (wire : WireRequest) (response : Response) : Prop where
  sendable : request.wire (client.urlOf request.path) = .ok wire
  answered : ∃ delay answer, network sent wire = .answered delay answer ∧
    delay < client.patience ∧ response = client.response request answer

namespace Scenario

section Actions
variable (client : Client) (retry : RetryPolicy) (network : Network) (scope : ScopeId) (index : Nat)
  (step : RequestStep) (rest : List RequestStep)

/-- An action whose request is answered has its response recorded and captures from it. -/
theorem goes_runAction (world middle : World) (response : Response) (marks : List Mark)
    (h : (client.executeWith retry step.request scope).Goes network world (.ok response) middle
      marks) :
    (runAction client retry scope index step).Goes network world
      (.ok ⟨step.label "action" index, response⟩)
      (middle.mapStore (captureAll scope response step.capture))
      (marks ++ [.noted (.exchanged
        (Exchange.ofResponse .acting (step.label "action" index) response))]) := by
  rw [runAction]
  exact Trial.goes_bind network _ _ world middle _ response _ marks _ h ⟨rfl, rfl⟩

theorem goes_runActions_cons (world middle after : World) (labelled : Labelled)
    (outcome : Except Error (List Labelled)) (front back : List Mark)
    (h : (runAction client retry scope index step).Goes network world (.ok labelled) middle front)
    (hr : (runActions client retry scope (index + 1) rest).Goes network middle outcome after back) :
    (runActions client retry scope index (step :: rest)).Goes network world
      (outcome.map (labelled :: ·)) after (front ++ back) := by
  rw [runActions]
  refine Trial.goes_bind network _ _ world middle after labelled _ front back h ?_
  cases outcome with
  | ok others =>
    have hall := Trial.goes_bind network _ (fun others => pure (labelled :: others)) middle after
      after others (.ok (labelled :: others)) back [] hr ⟨rfl, rfl⟩
    rwa [List.append_nil] at hall
  | error e => exact Trial.goes_bind_of_error network _ _ middle after e back hr

theorem goes_runActions_of_error (world after : World) (e : Error) (marks : List Mark)
    (h : (client.executeWith retry step.request scope).Goes network world (.error e) after marks) :
    (runActions client retry scope index (step :: rest)).Goes network world (.error e) after
      marks := by
  rw [runActions, runAction, bind_assoc]
  exact Trial.goes_bind_of_error network _ _ world after e marks h

theorem goes_runActions_of_unresolved (world : World) (e : Error)
    (hr : step.request.resolve (world.store.lookup scope) = .error e) :
    (runActions client retry scope index (step :: rest)).Goes network world (.error e) world [] := by
  apply goes_runActions_of_error
  exact client.goes_executeWith_of_unresolved network retry step.request scope world e hr

variable (world : World) (request : ResolvedRequest)
  (hr : step.request.resolve (world.store.lookup scope) = .ok request)
include hr

theorem goes_runActions_of_refused (e : Error)
    (hw : request.wire (client.urlOf request.path) = .error e) :
    (runActions client retry scope index (step :: rest)).Goes network world (.error e) world [] := by
  apply goes_runActions_of_error
  apply client.goes_executeWith network retry step.request scope world request hr
  exact client.goes_attempts_of_refused network request retry.backoff retry.retries e world hw

/-- The request of a step is sent once if it is answered in time, and the steps behind go on from
there. -/
theorem goes_runActions_of_gets (after : World) (wire : WireRequest) (response : Response)
    (outcome : Except Error (List Labelled)) (back : List Mark)
    (hg : client.Gets network world.sent request wire response)
    (hrest : (runActions client retry scope (index + 1) rest).Goes network
      ((world.sending wire).mapStore (captureAll scope response step.capture)) outcome after back) :
    ∃ marks, (runActions client retry scope index (step :: rest)).Goes network world
        (outcome.map (⟨step.label "action" index, response⟩ :: ·)) after marks ∧
      Mark.requests marks = wire :: Mark.requests back := by
  obtain ⟨delay, answer, hanswer, htime, rfl⟩ := hg.answered
  have hsent := client.goes_attempts network request retry.backoff retry.retries wire world delay
    answer hg.sendable hanswer htime
  have hexecuted := client.goes_executeWith network retry step.request scope world request hr _ _ _
    hsent
  have hacted := goes_runAction client retry network scope index step world _ _ _ hexecuted
  exact ⟨_, goes_runActions_cons client retry network scope index step rest world _ after _ outcome
    _ back hacted hrest, rfl⟩

end Actions

section Alone
variable (runner : Runner) (network : Network) (scope : ScopeId) (scenario : Scenario)
  (world after : World) (outcome : Except Error (List Labelled)) (marks : List Mark)

def judging : Except Error (List Labelled) → List Mark
  | .ok _ => [.noted (.entered .asserting)]
  | .error _ => []

theorem requests_judging : Mark.requests (judging outcome) = [] := by cases outcome <;> rfl

/-- Without fixtures and setup, the course of the phases is that of the actions. -/
theorem goes_runPhases (hf : scenario.fixtures = []) (hs : scenario.setup = [])
    (h : (runActions runner.client (scenario.retryPolicy runner.client) scope 0
      scenario.actions).Goes network world outcome after marks) :
    (scenario.runPhases runner scope).Goes network world
      (outcome.map fun responses => scenario.verdicts scope responses after) after
      ([.noted (.entered .setup), .noted (.entered .acting)] ++ (marks ++ judging outcome)) := by
  have hphases : scenario.runPhases runner scope = (do
      Trial.tell (.entered .setup)
      Trial.tell (.entered .acting)
      let responses ← runActions runner.client (scenario.retryPolicy runner.client) scope 0
        scenario.actions
      Trial.tell (.entered .asserting)
      Trial.read (scenario.verdicts scope responses)) := by
    rw [runPhases, buildFixtures, hf, hs]
    rfl
  rw [hphases]
  refine Trial.goes_bind network _ _ world world after () _ [_] _ ⟨rfl, rfl⟩ ?_
  refine Trial.goes_bind network _ _ world world after () _ [_] _ ⟨rfl, rfl⟩ ?_
  cases outcome with
  | ok responses =>
    exact Trial.goes_bind network _ _ world after after responses _ marks _ h ⟨rfl, rfl⟩
  | error e =>
    rw [judging, List.append_nil]
    exact Trial.goes_bind_of_error network _ _ world after e marks h

/-- In time, a scenario of actions alone sends what its actions send. It fails while acting if one
of them does, and else it has its verdicts. -/
theorem report_of_actions (hf : scenario.fixtures = []) (hs : scenario.setup = [])
    (ht : scenario.teardown = [])
    (h : (runActions runner.client (scenario.retryPolicy runner.client) scope 0
      scenario.actions).Goes network world outcome after marks)
    (hi : ∀ phase limit,
      ((scenario.run runner scope).run network world).1.failure ≠ some ⟨phase, .timeout limit⟩) :
    let report := ((scenario.run runner scope).run network world).1
    Mark.requests ((scenario.run runner scope).course network world) = Mark.requests marks ∧
    (∀ responses, outcome = .ok responses →
      report.failure = none ∧ report.verdicts = scenario.verdicts scope responses after) ∧
    ∀ e, outcome = .error e → report.failure = some ⟨.acting, e⟩ := by
  intro report
  have hgoes := goes_runPhases runner network scope scenario world after outcome marks hf hs h
  obtain ⟨-, -, hfailure, -, hcourse⟩ := run_course runner network scope scenario world
  obtain ⟨-, hverdicts, -⟩ :=
    run_of_inTime runner network scope scenario world _ after hgoes.exec hi
  -- Within its time the phases have the same course as alone; a run that is cut off fails for it.
  rcases Routine.within_cases network (scenario.runPhases runner scope).run
    (scenario.timeLimit runner) world with ⟨hrun, hsame⟩ | ⟨hnone, -⟩
  swap
  · rw [hnone] at hfailure
    exact absurd hfailure (hi _ _)
  have hmarks := hsame.trans hgoes.course
  have hend := congrArg Prod.fst (hrun.trans (congrArg (fun r => (some r.1, r.2)) hgoes.exec))
  rw [hmarks, hend] at hfailure
  have hquiet : (Mark.events marks).filterMap Event.phase? = [] := by
    rw [← h.course]
    exact Routine.phases_of_quiet network _ world (quiet_runActions _ _ scope 0 scenario.actions)
  have hsent := congrArg Mark.requests hcourse
  rw [ht, Mark.requests_append, Mark.requests_waits, Mark.requests_waits, hmarks,
    Mark.requests_append, Mark.requests_append, requests_judging, List.append_nil] at hsent
  have hrequests : Mark.requests ((scenario.run runner scope).course network world) =
      Mark.requests marks := hsent.trans (List.append_nil _)
  refine ⟨hrequests, ?_, ?_⟩
  · rintro responses rfl
    exact ⟨hfailure, hverdicts⟩
  · rintro e rfl
    have hentered : phasesEntered (Mark.events ([.noted (.entered .setup),
        .noted (.entered .acting)] ++ (marks ++ judging (.error e)))) =
          [.idle, .setup, .acting] := by
      rw [judging, List.append_nil, Mark.events_append, phasesEntered, List.filterMap_append,
        hquiet]
      rfl
    rw [hfailure]
    show some (⟨_, e⟩ : PhaseFailure) = _
    rw [hentered]
    rfl

end Alone

end Scenario

end ApiTrial
