import ApiTrial.Fixture.Build
import ApiTrial.Scenario.Report

/-!
Runs of scenarios. Setup and actions stop at the first step that fails; then, as after a run without
failure, every teardown step is tried. A run has a limited time up to its assertions, and teardown
is not limited.
-/
namespace ApiTrial

/-- What scenarios are run with. The timeout, in milliseconds, is for those without their own. -/
structure Runner where
  registry : Registry
  client : Client
  timeout : Nat := 120000

namespace Scenario

/-- The store after a step has captured values of its response. A source without a value unsets its
key. -/
def captureAll (scope : ScopeId) (response : Response) (captures : List (String × String))
    (store : Store) : Store :=
  captures.foldl
    (fun store capture =>
      match response.capture? capture.2 with
      | some value => store.set scope capture.1 value
      | none => store.remove scope capture.1) store

def capture (scope : ScopeId) (step : RequestStep) (response : Response) : Trial Unit :=
  Trial.modify (World.mapStore (captureAll scope response step.capture))

/-- What a step of setup or teardown expects if it does not say. -/
def expectation (step : RequestStep) : StatusExpectation := step.expect.getD (.oneOf .success)

/-- The complaint about a status, without what was expected. -/
def returned (response : Response) : String :=
  s!"{response.request.method.word} {response.url} returned {response.status}"

def retryPolicy (scenario : Scenario) (client : Client) : RetryPolicy :=
  match scenario.retries with
  | some retries => { client.retry with retries }
  | none => client.retry

/-- Carries out a step of setup, whose status has to be as expected. -/
def runSetupStep (client : Client) (retry : RetryPolicy) (scope : ScopeId) (index : Nat)
    (step : RequestStep) : Trial Unit := do
  let label := step.label "setup" index
  let response ← Trial.mapError (fun e => .fixtureFailed label e.message)
    (client.executeWith retry step.request scope)
  Trial.tell (.exchanged (Exchange.ofResponse .setup label response))
  let expect := expectation step
  if expect.meets response.status then capture scope step response
  else throw (.fixtureFailed label s!"{returned response}, expected {expect.display}")

def runSetup (client : Client) (retry : RetryPolicy) (scope : ScopeId) :
    Nat → List RequestStep → Trial Unit
  | _, [] => pure ()
  | index, step :: rest => do
    runSetupStep client retry scope index step
    runSetup client retry scope (index + 1) rest

/-- Carries out an action, whose status may be any. -/
def runAction (client : Client) (retry : RetryPolicy) (scope : ScopeId) (index : Nat)
    (step : RequestStep) : Trial Labelled := do
  let label := step.label "action" index
  let response ← client.executeWith retry step.request scope
  Trial.tell (.exchanged (Exchange.ofResponse .acting label response))
  capture scope step response
  return { label, response }

/-- Carries out the actions from a position on, and keeps their responses. -/
def runActions (client : Client) (retry : RetryPolicy) (scope : ScopeId) :
    Nat → List RequestStep → Trial (List Labelled)
  | _, [] => pure []
  | index, step :: rest => do
    let labelled ← runAction client retry scope index step
    let others ← runActions client retry scope (index + 1) rest
    return labelled :: others

/-- The verdicts on the assertions of a scenario in one state of the world. -/
def verdicts (scenario : Scenario) (scope : ScopeId) (responses : List Labelled) (world : World) :
    List Verdict :=
  scenario.assertions.map fun a => a.verdict responses (world.store.lookup scope)

/-- Builds the fixtures of a scenario, if it has any. -/
def buildFixtures (runner : Runner) (scenario : Scenario) (scope : ScopeId) : Trial Unit :=
  if scenario.fixtures.isEmpty then pure ()
  else do
    let client := { runner.client with retry := scenario.retryPolicy runner.client }
    let _ ← Fixture.buildAll runner.registry client scope scenario.fixtures

/-- The phases of a run up to its verdicts. -/
def runPhases (runner : Runner) (scenario : Scenario) (scope : ScopeId) : Trial (List Verdict) := do
  let retry := scenario.retryPolicy runner.client
  Trial.tell (.entered .setup)
  buildFixtures runner scenario scope
  runSetup runner.client retry scope 0 scenario.setup
  Trial.tell (.entered .acting)
  let responses ← runActions runner.client retry scope 0 scenario.actions
  Trial.tell (.entered .asserting)
  Trial.read (scenario.verdicts scope responses)

/-- Carries out a step of teardown, and tells what went wrong with it. -/
def runTeardownStep (client : Client) (scope : ScopeId) (index : Nat) (step : RequestStep) :
    Routine (Option String) := do
  let label := step.label "teardown" index
  -- Teardown is sent under the policy of the client, not under that of the scenario.
  match ← (client.execute step.request scope).run with
  | .ok response =>
    Routine.tell (.exchanged (Exchange.ofResponse .teardown label response))
    -- Nothing is captured here, so the response serves for the complaint only.
    return if (expectation step).meets response.status then none
      else some s!"{label}: {returned response}"
  | .error e => return some s!"{label}: {e.message}"

def runTeardown (client : Client) (scope : ScopeId) : Nat → List RequestStep → Routine (List String)
  | _, [] => pure []
  | index, step :: rest => do
    let complaint ← runTeardownStep client scope index step
    let others ← runTeardown client scope (index + 1) rest
    return complaint.toList ++ others

/-- The milliseconds that a scenario may take up to its verdicts. -/
def timeLimit (runner : Runner) (scenario : Scenario) : Nat :=
  match scenario.timeoutSecs with
  | some seconds => seconds * 1000
  | none => runner.timeout

/-- The phases that were entered, beginning with idle. -/
def phasesEntered (seen : List Event) : List Phase := .idle :: seen.filterMap Event.phase?

/-- The failure of a run, which happened in the phase that it had reached. -/
def failure? (limit : Nat) (seen : List Event) :
    Option (Except Error (List Verdict)) → Option PhaseFailure
  | some (.ok _) => none
  | some (.error error) => some ⟨(phasesEntered seen).getLast?.getD .idle, error⟩
  | none => some ⟨(phasesEntered seen).getLast?.getD .idle, .timeout limit⟩

/-- The verdicts of a run that came to its end. -/
def verdictsOf : Option (Except Error (List Verdict)) → List Verdict
  | some (.ok verdicts) => verdicts
  | _ => []

def run (runner : Runner) (scenario : Scenario) (scope : ScopeId) : Routine Report := do
  let limit := scenario.timeLimit runner
  let (seen, outcome) ← ((scenario.runPhases runner scope).run.within limit).collect
  let (late, teardownErrors) ← (runTeardown runner.client scope 0 scenario.teardown).collect
  let failure := failure? limit seen outcome
  return {
    name := scenario.name
    trace := phasesEntered seen ++ (if failure.isSome then [.failed] else []) ++ [.teardown, .done]
    failure
    verdicts := verdictsOf outcome
    exchanges := (seen ++ late).filterMap Event.exchange?
    teardownErrors }

end Scenario

end ApiTrial
