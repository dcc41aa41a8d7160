import ApiTrial.Proofs.RunExchanges

/-! Under which retry policy the requests of a run are tried. Fixtures, setup and the actions are
tried under the policy of their scenario. Teardown is not: it has only the policy of the client. -/
namespace ApiTrial

namespace Mark

/-- A course in which each request is tried as a retry policy says. -/
inductive Follows (policy : RetryPolicy) : List Mark → Prop
  | nil : Follows policy []
  | noted (event : Event) (rest : List Mark) (hr : Follows policy rest) :
      Follows policy (noted event :: rest)
  | tried (request : WireRequest) (front rest : List Mark)
      (h : Tries policy.backoff request policy.retries front) (hr : Follows policy rest) :
      Follows policy (front ++ rest)

theorem closed_follows (policy : RetryPolicy) : Closed (Follows policy) where
  nil := .nil
  append a b ha hb := by
    induction ha with
    | nil => exact hb
    | noted event rest hr ih => exact .noted event _ ih
    | tried request front rest h hr ih =>
      rw [List.append_assoc]
      exact .tried request front _ h ih

def isUnanswered : Mark → Bool
  | sent _ seen => seen.answer?.isNone
  | _ => false

/-- A single request without an answer has not been tried again, as a policy with retries wants it. -/
theorem not_follows_of_unanswered (policy : RetryPolicy) (course : List Mark)
    (hp : 0 < policy.retries) (hc : course.map isUnanswered = [true]) :
    ¬ Follows policy course := by
  intro hf
  obtain ⟨mark, rfl, hm⟩ : ∃ mark, course = [mark] ∧ mark.isUnanswered = true := by
    obtain ⟨mark, rest, rfl, hm, hrest⟩ := List.map_eq_cons_iff.mp hc
    exact ⟨mark, by rw [List.map_eq_nil_iff.mp hrest], hm⟩
  generalize hs : [mark] = course at hf
  cases hf with
  | nil => cases hs
  | noted event rest hr =>
    cases hs
    cases hm
  | tried request front rest h hr =>
    generalize hn : policy.retries = retries at h hp
    cases h with
    | answered retries seen ha =>
      cases hs
      rw [isUnanswered, Option.isNone_iff_eq_none] at hm
      rw [hm] at ha
      cases ha
    | givenUp seen ha => cases hp
    | again retries seen rest ha hr => cases hs

end Mark

theorem Client.follows_executeWith (client : Client) (network : Network) (retry : RetryPolicy)
    (template : RequestTemplate) (scope : ScopeId) :
    Trial.Courses network (Mark.Follows retry) (client.executeWith retry template scope) := by
  intro world
  rcases client.course_executeWith_cases network retry template scope world with h | ⟨wire, h⟩
  · rw [h]
    exact .nil
  · rw [← List.append_nil (Trial.course ..)]
    exact .tried wire _ [] h .nil

/-- A fixture that tries each request as the client that it is given does. -/
def Fixture.Obedient (fixture : Fixture) : Prop :=
  ∀ network context params,
    Trial.Courses network (Mark.Follows context.client.retry) (fixture.build context params)

theorem Registry.obedient_of_isStandard (registry : Registry) (h : registry.IsStandard) :
    ∀ fixture ∈ registry, fixture.Obedient := by
  intro fixture hf network context params
  exact registry.closed_of_isStandard h fixture hf context params _
    (Fixture.Context.closed_courses network _ (Mark.closed_follows _) context fun template =>
      context.client.follows_executeWith network context.client.retry template context.scope)

namespace Scenario

section Steps
variable (client : Client) (retry : RetryPolicy) (network : Network) (scope : ScopeId)

theorem follows_carryOut (manner : Manner) (index : Nat) (step : RequestStep) :
    Trial.Courses network (Mark.Follows retry) (manner.carryOut client retry scope index step) := by
  have hclosed := Mark.closed_follows retry
  apply Trial.courses_bind network _ hclosed
  · intro world
    rw [Trial.course_mapError]
    exact client.follows_executeWith network retry step.request scope world
  intro response
  apply Trial.courses_bind network _ hclosed
  · exact fun _ => .noted _ [] .nil
  intro _
  split
  · exact Trial.courses_bind network _ hclosed _ _ (fun _ => .nil) fun _ _ => .nil
  · exact fun _ => .nil

theorem follows_carryAll (manner : Manner) (index : Nat) (steps : List RequestStep) :
    Trial.Courses network (Mark.Follows retry) (manner.carryAll client retry scope index steps) := by
  have hclosed := Mark.closed_follows retry
  induction steps generalizing index with
  | nil => exact fun _ => .nil
  | cons step rest ih =>
    apply Trial.courses_bind network _ hclosed
    · exact follows_carryOut client retry network scope manner index step
    intro labelled
    apply Trial.courses_bind network _ hclosed
    · exact ih (index + 1)
    · exact fun _ _ => .nil

/-- Each request of teardown is tried as the client does by itself. -/
theorem follows_runTeardown (index : Nat) (steps : List RequestStep) (world : World) :
    Mark.Follows client.retry ((runTeardown client scope index steps).course network world) := by
  have hclosed := Mark.closed_follows client.retry
  induction steps generalizing index world with
  | nil => exact .nil
  | cons step rest ih =>
    have hrequest := client.follows_executeWith network client.retry step.request scope world
    have hrest := ih (index + 1) (afterRequest client client.retry network scope step world)
    cases ha : answer client client.retry network scope step world with
    | ok response =>
      obtain ⟨hstep, hmarks⟩ :=
        runTeardownStep_of_ok client network scope index step world response ha
      rw [(runTeardown_cons client network scope index step rest world _ _ hstep).2, hmarks]
      exact hclosed.append _ _ (hclosed.append _ _ hrequest (.noted _ [] .nil)) hrest
    | error e =>
      obtain ⟨hstep, hmarks⟩ := runTeardownStep_of_error client network scope index step world e ha
      rw [(runTeardown_cons client network scope index step rest world _ _ hstep).2, hmarks]
      exact hclosed.append _ _ hrequest hrest

end Steps

section Run
variable (runner : Runner) (network : Network) (scope : ScopeId) (scenario : Scenario)

/-- Each request of fixtures, setup and the actions is tried as the scenario says. -/
theorem follows_runPhases (ho : ∀ fixture ∈ runner.registry, fixture.Obedient) :
    Trial.Courses network (Mark.Follows (scenario.retryPolicy runner.client))
      (scenario.runPhases runner scope) := by
  have hclosed := Mark.closed_follows (scenario.retryPolicy runner.client)
  have hcarry := follows_carryAll runner.client (scenario.retryPolicy runner.client) network scope
  have htell (phase : Phase) : Trial.Courses network
      (Mark.Follows (scenario.retryPolicy runner.client)) (Trial.tell (.entered phase)) :=
    fun _ => .noted _ [] .nil
  apply Trial.courses_bind network _ hclosed _ _ (htell .setup)
  intro _
  apply Trial.courses_bind network _ hclosed
  · rw [buildFixtures]
    split
    · exact fun _ => .nil
    · -- The fixtures are built by a client whose own policy is that of the scenario.
      apply Trial.courses_bind network _ hclosed _ _ ?_ fun _ _ => .nil
      let client := { runner.client with retry := scenario.retryPolicy runner.client }
      exact Fixture.courses_buildAll network _ hclosed runner.registry client scope
        (fun fixture hf inner params => ho fixture hf network ⟨fixture.name, client, inner⟩ params)
        scenario.fixtures
  intro _
  apply Trial.courses_bind network _ hclosed
  · rw [Manner.runSetup_eq]
    exact Trial.courses_bind network _ hclosed _ _ (hcarry .setup 0 _) fun _ _ => .nil
  intro _
  apply Trial.courses_bind network _ hclosed _ _ (htell .acting)
  intro _
  apply Trial.courses_bind network _ hclosed
  · rw [Manner.runActions_eq]
    exact hcarry .acting 0 _
  intro responses
  exact Trial.courses_bind network _ hclosed _ _ (htell .asserting) fun _ _ => .nil

/-- The requests of a run are those of its phases, each tried under the retries of the scenario if
it has its own and else as the client does, up to where time was up, and then those of teardown,
which are tried as the client does whatever the scenario says. -/
theorem requests_follow_retries (ho : ∀ fixture ∈ runner.registry, fixture.Obedient)
    (world : World) :
    let phases := (scenario.runPhases runner scope).course network world
    let teardown := (runTeardown runner.client scope 0 scenario.teardown).course network
      (scenario.torn runner network scope world)
    (∀ retries, scenario.retries = some retries →
      Mark.Follows { runner.client.retry with retries } phases) ∧
    (scenario.retries = none → Mark.Follows runner.client.retry phases) ∧
    Mark.Follows runner.client.retry teardown ∧
    ∃ marks,
      (marks = phases ∨ Mark.CutOff phases marks ∧ ∃ phase limit,
        ((scenario.run runner scope).run network world).1.failure =
          some ⟨phase, .timeout limit⟩) ∧
      (scenario.run runner scope).course network world =
        Mark.waits marks ++ Mark.waits teardown := by
  intro phases teardown
  have hphases := follows_runPhases runner network scope scenario ho world
  have hteardown := follows_runTeardown runner.client network scope 0 scenario.teardown
    (scenario.torn runner network scope world)
  obtain ⟨-, -, hfailure, -, hcourse⟩ := run_course runner network scope scenario world
  refine ⟨?_, ?_, hteardown, _, ?_, hcourse⟩
  · intro retries hr
    rw [retryPolicy, hr] at hphases
    exact hphases
  · intro hr
    rw [retryPolicy, hr] at hphases
    exact hphases
  · rcases Routine.within_cases network (scenario.runPhases runner scope).run
      (scenario.timeLimit runner) world with ⟨-, hsame⟩ | ⟨hnone, hcut⟩
    · exact Or.inl hsame
    · rw [hnone] at hfailure
      exact Or.inr ⟨hcut, _, _, hfailure⟩

end Run

def flaky : Scenario where
  name := "flaky"
  retries := some 1
  actions := [{ request := .new .get "/things" }]
  assertions := [.ofStatus "found" 200]
  teardown := [{ request := .new .delete "/things/1" }]

def flakyNetwork : Network := fun sent request =>
  if request ∈ sent then .answered 1 { status := 200 } else .broken 1

/-- The action is tried again and passes; the request of teardown is not, although there is a retry
for each request of the scenario. -/
theorem requests_follow_retries_flaky :
    let world : World := ⟨[⟨"root", none, []⟩], [], []⟩
    let report := ((flaky.run ticketingRunner 0).run flakyNetwork world).1
    let teardown := (runTeardown ticketingRunner.client 0 0 flaky.teardown).course flakyNetwork
      (flaky.torn ticketingRunner flakyNetwork 0 world)
    report.passed = true ∧
    (Mark.requests ((flaky.run ticketingRunner 0).course flakyNetwork world)).map (·.method) =
      [.get, .get, .delete] ∧
    report.teardownErrors =
      ["teardown#1: Transport error: error sending request for url (http://api.test/things/1)"] ∧
    Mark.Follows ⟨1, 0⟩ ((flaky.runPhases ticketingRunner 0).course flakyNetwork world) ∧
    Mark.Follows ⟨0, 0⟩ teardown ∧ ¬ Mark.Follows ⟨1, 0⟩ teardown := by
  intro world report teardown
  have hpassed : report.passed = true := by decide +kernel
  have hsent : (Mark.requests ((flaky.run ticketingRunner 0).course flakyNetwork world)).map
      (·.method) = [.get, .get, .delete] := by
    decide +kernel
  have herrors : report.teardownErrors =
      ["teardown#1: Transport error: error sending request for url (http://api.test/things/1)"] := by
    decide +kernel
  have ho := Registry.obedient_of_isStandard ticketingRunner.registry fun _ h => Or.inl h
  obtain ⟨hphases, -, hteardown, -⟩ :=
    requests_follow_retries ticketingRunner flakyNetwork 0 flaky ho world
  have honce : teardown.map Mark.isUnanswered = [true] := by decide +kernel
  exact ⟨hpassed, hsent, herrors, hphases 1 rfl, hteardown,
    Mark.not_follows_of_unanswered ⟨1, 0⟩ teardown Nat.one_pos honce⟩

end Scenario

end ApiTrial
