import ApiTrial.Proofs.RequestCourse
import ApiTrial.Proofs.RunLifecycle
import ApiTrial.Proofs.StepManner

/-! What a run sends and records. Setup and the actions carry out their steps in turn and stop at
the first that fails; teardown carries out all of its steps. A response is recorded as soon as it is
there, so a run that is cut off by its time limit has recorded the responses that came in front of
the cut, in the order of the steps. -/
namespace ApiTrial

namespace Mark

def exchanges (course : List Mark) : List Exchange := (events course).filterMap Event.exchange?

@[simp] theorem exchanges_nil : exchanges [] = [] := rfl

@[simp] theorem exchanges_append (a b : List Mark) :
    exchanges (a ++ b) = exchanges a ++ exchanges b := by
  rw [exchanges, events_append, List.filterMap_append, exchanges, exchanges]

@[simp] theorem exchanges_entered (phase : Phase) (course : List Mark) :
    exchanges (noted (.entered phase) :: course) = exchanges course := rfl

@[simp] theorem exchanges_exchanged (exchange : Exchange) (course : List Mark) :
    exchanges (noted (.exchanged exchange) :: course) = exchange :: exchanges course := rfl

@[simp] theorem requests_noted_cons (event : Event) (course : List Mark) :
    requests (noted event :: course) = requests course := rfl

theorem exchanges_of_events_nil (course : List Mark) (h : events course = []) :
    exchanges course = [] := by
  rw [exchanges, h, List.filterMap_nil]

/-- Where nothing is recorded, nothing has been recorded when the course is cut off. -/
theorem exchanges_of_cutOff (course cut : List Mark) (hc : CutOff course cut)
    (h : exchanges course = []) : exchanges cut = [] := by
  have hprefix := (events_of_cutOff course cut hc).filterMap Event.exchange?
  rw [← exchanges, ← exchanges, h] at hprefix
  exact List.prefix_nil.mp hprefix

theorem closed_exchanges_nil : Closed fun course => exchanges course = [] where
  nil := rfl
  append a b ha hb := by rw [exchanges_append, ha, hb, List.append_nil]

end Mark

/-- A fixture that records no exchanges while it is built. -/
def Fixture.Unseen (fixture : Fixture) : Prop :=
  ∀ network context params, Trial.Courses network (fun course => Mark.exchanges course = [])
    (fixture.build context params)

theorem Registry.unseen_of_isStandard (registry : Registry) (h : registry.IsStandard) :
    ∀ fixture ∈ registry, fixture.Unseen := by
  intro fixture hf network context params
  refine registry.closed_of_isStandard h fixture hf context params _
    (Fixture.Context.closed_courses network _ Mark.closed_exchanges_nil context ?_)
  intro template world
  exact Mark.exchanges_of_events_nil _
    (context.client.events_executeWith network context.client.retry template context.scope world)

namespace Scenario

section Account
variable (client : Client) (retry : RetryPolicy) (network : Network) (scope : ScopeId)

def asked (step : RequestStep) (world : World) : List WireRequest :=
  Mark.requests ((client.executeWith retry step.request scope).course network world)

def afterRequest (step : RequestStep) (world : World) : World :=
  ((client.executeWith retry step.request scope).exec network world).2

inductive Carried (manner : Manner) (timeUp : Prop) :
    Nat → List RequestStep → World → List Exchange → List WireRequest → Bool → World → Prop
  | nil (index : Nat) (world : World) : Carried manner timeUp index [] world [] [] true world
  | met (index : Nat) (step : RequestStep) (rest : List RequestStep) (world : World)
      (response : Response) (exchanges : List Exchange) (sent : List WireRequest) (well : Bool)
      (after : World) (ha : answer client retry network scope step world = .ok response)
      (hm : manner.complaint? (step.label manner.word index) step response = none)
      (hr : Carried manner timeUp (index + 1) rest
        ((afterRequest client retry network scope step world).mapStore
          (captureAll scope response step.capture)) exchanges sent well after) :
      Carried manner timeUp index (step :: rest) world
        (Exchange.ofResponse manner.phase (step.label manner.word index) response :: exchanges)
        (asked client retry network scope step world ++ sent) well after
  | missed (index : Nat) (step : RequestStep) (rest : List RequestStep) (world after : World)
      (response : Response) (e : Error)
      (ha : answer client retry network scope step world = .ok response)
      (hm : manner.complaint? (step.label manner.word index) step response = some e)
      (he : after = afterRequest client retry network scope step world)
      (hs : after.store = world.store) :
      Carried manner timeUp index (step :: rest) world
        [Exchange.ofResponse manner.phase (step.label manner.word index) response]
        (asked client retry network scope step world) false after
  | refused (index : Nat) (step : RequestStep) (rest : List RequestStep) (world after : World)
      (e : Error) (ha : answer client retry network scope step world = .error e)
      (he : after = afterRequest client retry network scope step world)
      (hs : after.store = world.store) :
      Carried manner timeUp index (step :: rest) world []
        (asked client retry network scope step world) false after
  | late (index : Nat) (step : RequestStep) (rest : List RequestStep) (world after : World)
      (sent : List WireRequest) (h : timeUp)
      (hp : sent <+: asked client retry network scope step world)
      (hs : after.store = world.store) :
      Carried manner timeUp index (step :: rest) world [] sent false after

section Steps
variable {β : Type} (manner : Manner)

theorem carried_mono (timeUp late : Prop) (hl : timeUp → late) (index : Nat)
    (steps : List RequestStep) (world after : World) (exchanges : List Exchange)
    (sent : List WireRequest) (well : Bool)
    (h : Carried client retry network scope manner timeUp index steps world exchanges sent well after) :
    Carried client retry network scope manner late index steps world exchanges sent well after := by
  induction h with
  | nil index world => exact .nil index world
  | met index step rest world response exchanges sent well after ha hm hr ih =>
    exact .met index step rest world response exchanges sent well after ha hm ih
  | missed index step rest world after response e ha hm he hs =>
    exact .missed index step rest world after response e ha hm he hs
  | refused index step rest world after e ha he hs => exact .refused index step rest world after e ha he hs
  | late index step rest world after sent h hp hs =>
    exact .late index step rest world after sent (hl h) hp hs

theorem answer_of_mapError (f : Error → Error) (step : RequestStep) (world middle : World)
    (response : Response)
    (h : (Trial.mapError f (client.executeWith retry step.request scope)).exec network world =
      (.ok response, middle)) :
    answer client retry network scope step world = .ok response ∧
      afterRequest client retry network scope step world = middle := by
  have hx := Trial.exec_mapError_ok network f _ world middle response h
  exact ⟨congrArg Prod.fst hx, congrArg Prod.snd hx⟩

theorem answer_error_of_mapError (f : Error → Error) (step : RequestStep) (world after : World)
    (e : Error)
    (h : (Trial.mapError f (client.executeWith retry step.request scope)).exec network world =
      (.error e, after)) :
    ∃ e', answer client retry network scope step world = .error e' ∧
      after = afterRequest client retry network scope step world := by
  rw [Trial.exec_mapError] at h
  cases ha : answer client retry network scope step world with
  | ok response =>
    rw [answer] at ha
    rw [ha] at h
    cases h
  | error e' => exact ⟨e', rfl, (congrArg Prod.snd h).symm⟩

/-- However a request is stopped, it changes no variables. -/
theorem store_of_reaches_request (f : Error → Error) (step : RequestStep) (world reached : World)
    (h : (Trial.mapError f (client.executeWith retry step.request scope)).Reaches network world
      reached) : reached.store = world.store := by
  have hkeeps := Client.keeps_executeWith (fun w => w.store = world.store) (fun _ => True)
    (fun _ _ hw => hw) (fun _ => True.intro) client retry step.request scope
  exact Trial.keeps_reaches (fun w => w.store = world.store) (fun _ => True) (fun _ => True) network
    _ world reached (Trial.keeps_mapError _ _ _ _ f _ hkeeps fun _ _ => True.intro) rfl h

/-- A step that is followed by something else is answered as wanted, and then this follows; or it is
the last. -/
theorem endsAs_carryOut (k : Labelled → Trial β) (index : Nat) (step : RequestStep) (limit : Nat)
    (world after : World) (outcome : Option (Except Error β)) (marks : List Mark)
    (h : (manner.carryOut client retry scope index step >>= k).EndsAs network limit world outcome
      after marks) :
    let label := step.label manner.word index
    let course := (client.executeWith retry step.request scope).course network world
    (∃ response left back, answer client retry network scope step world = .ok response ∧
      manner.complaint? label step response = none ∧
      (k ⟨label, response⟩).EndsAs network left
        ((afterRequest client retry network scope step world).mapStore
          (captureAll scope response step.capture)) outcome after back ∧
      marks = course ++ .noted (.exchanged (Exchange.ofResponse manner.phase label response)) :: back) ∨
    (∃ response e, answer client retry network scope step world = .ok response ∧
      manner.complaint? label step response = some e ∧
      after = afterRequest client retry network scope step world ∧ after.store = world.store ∧
      marks = course ++ [.noted (.exchanged (Exchange.ofResponse manner.phase label response))]) ∨
    (∃ e, answer client retry network scope step world = .error e ∧
      after = afterRequest client retry network scope step world ∧ after.store = world.store ∧
      marks = course) ∨
    (outcome = none ∧ after.store = world.store ∧ Mark.CutOff course marks) := by
  intro label course
  have hstore := store_of_reaches_request client retry network scope (manner.refusal label) step world
  rw [Manner.carryOut, bind_assoc] at h
  rcases Trial.endsAs_bind network _ _ _ _ _ _ _ h with
    ⟨response, middle, left, back, hok, hrest, hmarks⟩ | ⟨e, herror, -, hmarks⟩ | ⟨hnone, hreach, hcut⟩
  · -- The request is answered, which is recorded, and the phase judges the response.
    obtain ⟨ha, rfl⟩ := answer_of_mapError client retry network scope _ step world middle response hok
    rw [Trial.course_mapError] at hmarks
    rw [bind_assoc] at hrest
    obtain ⟨back, hjudged, rfl⟩ := Trial.endsAs_tell network _ _ _ _ _ _ _ hrest
    cases hm : manner.complaint? label step response with
    | none =>
      rw [hm] at hjudged
      simp only [bind_assoc, pure_bind] at hjudged
      have hcaptured := Trial.endsAs_modify network _ _ _ _ _ _ _ hjudged
      exact Or.inl ⟨response, left, back, ha, hm, hcaptured, hmarks⟩
    | some e =>
      rw [hm] at hjudged
      obtain ⟨hafter, hback⟩ := Trial.endsAs_throw_bind network e k _ _ _ _ _ hjudged
      rw [hback] at hmarks
      have hsame := hstore _ (Trial.reaches_of_exec network _ world _ _ hok)
      rw [← hafter] at hsame
      exact Or.inr (Or.inl ⟨response, e, ha, hm, hafter, hsame, hmarks⟩)
  · -- The request fails, and nothing is recorded.
    obtain ⟨e', ha, hafter⟩ :=
      answer_error_of_mapError client retry network scope _ step world after e herror
    rw [Trial.course_mapError] at hmarks
    have hsame := hstore _ (Trial.reaches_of_exec network _ world _ _ herror)
    exact Or.inr (Or.inr (Or.inl ⟨e', ha, hafter, hsame, hmarks⟩))
  · -- Time is up while the request is tried.
    rw [Trial.course_mapError] at hcut
    exact Or.inr (Or.inr (Or.inr ⟨hnone, hstore _ hreach, hcut⟩))

/-- Steps that are followed by something else end well, and then this follows; or it is not tried. -/
theorem carried_of_endsAs (k : List Labelled → Trial β) (index : Nat) (steps : List RequestStep)
    (limit : Nat) (world after : World) (outcome : Option (Except Error β)) (marks : List Mark)
    (h : (manner.carryAll client retry scope index steps >>= k).EndsAs network limit world outcome
      after marks) :
    (∃ responses middle exchanges sent left back,
      Carried client retry network scope manner (outcome = none) index steps world exchanges sent true
        middle ∧
      (k responses).EndsAs network left middle outcome after back ∧
      Mark.exchanges marks = exchanges ++ Mark.exchanges back ∧
      Mark.requests marks = sent ++ Mark.requests back) ∨
    Carried client retry network scope manner (outcome = none) index steps world
      (Mark.exchanges marks) (Mark.requests marks) false after := by
  induction steps generalizing k index limit world marks with
  | nil => exact Or.inl ⟨[], world, [], [], limit, marks, .nil index world, h, rfl, rfl⟩
  | cons step rest ih =>
    have hsilent := Mark.exchanges_of_events_nil _
      (client.events_executeWith network retry step.request scope world)
    rw [Manner.carryAll, bind_assoc] at h
    simp only [bind_assoc, pure_bind] at h
    rcases endsAs_carryOut client retry network scope manner _ index step limit world after outcome
      marks h with ⟨response, left, back, ha, hm, hrest, rfl⟩ | ⟨response, e, ha, hm, he, hs, rfl⟩ |
        ⟨e, ha, he, hs, rfl⟩ | ⟨hnone, hs, hcut⟩
    · -- The step went well, so its exchange and its requests stand in front of those of the rest.
      rw [Mark.exchanges_append, Mark.requests_append, hsilent, List.nil_append,
        Mark.exchanges_exchanged, Mark.requests_noted_cons]
      rcases ih _ (index + 1) left _ back hrest with
        ⟨responses, middle, exchanges, sent, left, last, hcarried, hk, hexchanges, hsent⟩ | hcarried
      · have hmet := Carried.met index step rest world response exchanges sent true middle ha hm
          hcarried
        refine Or.inl ⟨_, middle, _, _, left, last, hmet, hk, ?_, ?_⟩
        · rw [hexchanges, List.cons_append]
        · rw [hsent, asked, List.append_assoc]
      · exact Or.inr (.met index step rest world response _ _ false after ha hm hcarried)
    · -- The exchange of a step that missed its expectation is the last that is recorded.
      rw [Mark.exchanges_append, Mark.requests_append, hsilent, List.nil_append,
        Mark.exchanges_exchanged, Mark.requests_noted_cons, Mark.exchanges_nil, Mark.requests_nil,
        List.append_nil]
      exact Or.inr (.missed index step rest world after response e ha hm he hs)
    · rw [hsilent]
      exact Or.inr (.refused index step rest world after e ha he hs)
    · rw [Mark.exchanges_of_cutOff _ _ hcut hsilent]
      exact Or.inr (.late index step rest world after _ hnone (Mark.requests_of_cutOff _ _ hcut) hs)

/-- What is recorded of steps is recorded of the steps in front, each under its label. -/
theorem step_of_carried (timeUp : Prop) (index : Nat) (steps : List RequestStep)
    (world after : World) (exchanges : List Exchange) (sent : List WireRequest) (well : Bool)
    (h : Carried client retry network scope manner timeUp index steps world exchanges sent well after)
    (i : Nat) (exchange : Exchange) (hi : exchanges[i]? = some exchange) :
    ∃ step response, steps[i]? = some step ∧
      exchange = Exchange.ofResponse manner.phase (step.label manner.word (index + i)) response := by
  induction h generalizing i with
  | nil index world => cases hi
  | met index step rest world response exchanges sent well after ha hm hr ih =>
    cases i with
    | zero =>
      cases hi
      exact ⟨step, response, rfl, rfl⟩
    | succ i =>
      obtain ⟨found, response, hf, he⟩ := ih i hi
      rw [Nat.add_assoc, Nat.add_comm 1] at he
      exact ⟨found, response, hf, he⟩
  | missed index step rest world after response e ha hm he hs =>
    cases i with
    | zero =>
      cases hi
      exact ⟨step, response, rfl, rfl⟩
    | succ i => cases hi
  | refused index step rest world after e ha he hs => cases hi
  | late index step rest world after sent h hp hs => cases hi

/-- Steps that end well were all answered as the phase wants it, and all are recorded. -/
theorem all_of_carried (timeUp : Prop) (index : Nat) (steps : List RequestStep)
    (world after : World) (exchanges : List Exchange) (sent : List WireRequest)
    (h : Carried client retry network scope manner timeUp index steps world exchanges sent true after)
    (i : Nat) (step : RequestStep) (hi : steps[i]? = some step) :
    ∃ response, manner.complaint? (step.label manner.word (index + i)) step response = none ∧
      exchanges[i]? =
        some (Exchange.ofResponse manner.phase (step.label manner.word (index + i)) response) := by
  generalize hw : true = well at h
  induction h generalizing i with
  | nil index world => cases hi
  | met index first rest world response exchanges sent well after ha hm hr ih =>
    cases i with
    | zero =>
      cases hi
      exact ⟨response, hm, rfl⟩
    | succ i =>
      obtain ⟨response, hm, he⟩ := ih i hi hw
      rw [Nat.add_assoc, Nat.add_comm 1] at hm he
      exact ⟨response, hm, he⟩
  | missed index step rest world after response e ha hm he hs => cases hw
  | refused index step rest world after e ha he hs => cases hw
  | late index step rest world after sent h hp hs => cases hw

end Steps

end Account

section Teardown
variable (client : Client) (network : Network) (scope : ScopeId)

def labelled (label complaint : String) : String := s!"{label}: {complaint}"

/-- The steps of teardown carried out one after the other, whatever comes of each: every one is
tried, and either its exchange is recorded or it is complained of for its error. A status that is
not as expected is complained of too. -/
inductive TornDown : Nat → List RequestStep → World → List Exchange → List String →
    List WireRequest → World → Prop
  | nil (index : Nat) (world : World) : TornDown index [] world [] [] [] world
  | answered (index : Nat) (step : RequestStep) (rest : List RequestStep) (world : World)
      (response : Response) (exchanges : List Exchange) (complaints : List String)
      (sent : List WireRequest) (after : World)
      (ha : answer client client.retry network scope step world = .ok response)
      (hr : TornDown (index + 1) rest (afterRequest client client.retry network scope step world)
        exchanges complaints sent after) :
      TornDown index (step :: rest) world
        (Exchange.ofResponse .teardown (step.label "teardown" index) response :: exchanges)
        ((if (expectation step).meets response.status then []
          else [labelled (step.label "teardown" index) (returned response)]) ++ complaints)
        (asked client client.retry network scope step world ++ sent) after
  | refused (index : Nat) (step : RequestStep) (rest : List RequestStep) (world : World) (e : Error)
      (exchanges : List Exchange) (complaints : List String) (sent : List WireRequest) (after : World)
      (ha : answer client client.retry network scope step world = .error e)
      (hr : TornDown (index + 1) rest (afterRequest client client.retry network scope step world)
        exchanges complaints sent after) :
      TornDown index (step :: rest) world exchanges
        (labelled (step.label "teardown" index) e.message :: complaints)
        (asked client client.retry network scope step world ++ sent) after

/-- A teardown step that is answered complains of the status at most. -/
theorem runTeardownStep_of_ok (index : Nat) (step : RequestStep) (world : World)
    (response : Response) (ha : answer client client.retry network scope step world = .ok response) :
    (runTeardownStep client scope index step).run network world =
      (if (expectation step).meets response.status then none
        else some (labelled (step.label "teardown" index) (returned response)),
        afterRequest client client.retry network scope step world) ∧
    (runTeardownStep client scope index step).course network world =
      (client.executeWith client.retry step.request scope).course network world ++
        [.noted (.exchanged
          (Exchange.ofResponse .teardown (step.label "teardown" index) response))] := by
  have hrun : (client.execute step.request scope).run.run network world =
      (.ok response, afterRequest client client.retry network scope step world) :=
    Prod.ext ha rfl
  constructor
  · rw [runTeardownStep, Routine.run_monad_bind, hrun]
    rfl
  · exact (Routine.course_bind network (client.execute step.request scope).run _ world).trans
      (by rw [hrun]; rfl)

/-- A teardown step that is not answered complains of the error. -/
theorem runTeardownStep_of_error (index : Nat) (step : RequestStep) (world : World) (e : Error)
    (ha : answer client client.retry network scope step world = .error e) :
    (runTeardownStep client scope index step).run network world =
      (some (labelled (step.label "teardown" index) e.message),
        afterRequest client client.retry network scope step world) ∧
    (runTeardownStep client scope index step).course network world =
      (client.executeWith client.retry step.request scope).course network world := by
  have hrun : (client.execute step.request scope).run.run network world =
      (.error e, afterRequest client client.retry network scope step world) :=
    Prod.ext ha rfl
  constructor
  · rw [runTeardownStep, Routine.run_monad_bind, hrun]
    rfl
  · refine (Routine.course_bind network (client.execute step.request scope).run _ world).trans ?_
    rw [hrun]
    exact List.append_nil _

theorem runTeardown_cons (index : Nat) (step : RequestStep) (rest : List RequestStep)
    (world middle : World) (complaint : Option String)
    (h : (runTeardownStep client scope index step).run network world = (complaint, middle)) :
    (runTeardown client scope index (step :: rest)).run network world =
      (complaint.toList ++ ((runTeardown client scope (index + 1) rest).run network middle).1,
        ((runTeardown client scope (index + 1) rest).run network middle).2) ∧
    (runTeardown client scope index (step :: rest)).course network world =
      (runTeardownStep client scope index step).course network world ++
        (runTeardown client scope (index + 1) rest).course network middle := by
  constructor
  · rw [runTeardown, Routine.run_monad_bind, h, Routine.run_monad_bind]
    rfl
  · rw [runTeardown]
    refine (Routine.course_bind network (runTeardownStep client scope index step) _ world).trans ?_
    rw [h]
    refine congrArg _ ((Routine.course_bind network _ _ middle).trans ?_)
    exact List.append_nil _

/-- Every step of a teardown is tried in its turn, whatever became of the steps in front. -/
theorem tornDown_runTeardown (index : Nat) (steps : List RequestStep) (world : World) :
    TornDown client network scope index steps world
      (Mark.exchanges ((runTeardown client scope index steps).course network world))
      ((runTeardown client scope index steps).run network world).1
      (Mark.requests ((runTeardown client scope index steps).course network world))
      ((runTeardown client scope index steps).run network world).2 := by
  induction steps generalizing index world with
  | nil => exact .nil index world
  | cons step rest ih =>
    have hsilent := Mark.exchanges_of_events_nil _
      (client.events_executeWith network client.retry step.request scope world)
    have hrest := ih (index + 1) (afterRequest client client.retry network scope step world)
    cases ha : answer client client.retry network scope step world with
    | ok response =>
      obtain ⟨hstep, hmarks⟩ :=
        runTeardownStep_of_ok client network scope index step world response ha
      obtain ⟨hrun, hcourse⟩ := runTeardown_cons client network scope index step rest world _ _ hstep
      have hdown := TornDown.answered index step rest world response _ _ _ _ ha hrest
      have hexchanges : Mark.exchanges ((runTeardown client scope index (step :: rest)).course network
          world) = Exchange.ofResponse .teardown (step.label "teardown" index) response ::
            Mark.exchanges ((runTeardown client scope (index + 1) rest).course network
              (afterRequest client client.retry network scope step world)) := by
        rw [hcourse, hmarks, List.append_assoc, Mark.exchanges_append, hsilent]
        rfl
      have hsent : Mark.requests ((runTeardown client scope index (step :: rest)).course network
          world) = asked client client.retry network scope step world ++
            Mark.requests ((runTeardown client scope (index + 1) rest).course network
              (afterRequest client client.retry network scope step world)) := by
        rw [hcourse, hmarks, List.append_assoc, Mark.requests_append]
        rfl
      have hlist : (if (expectation step).meets response.status then none
            else some (labelled (step.label "teardown" index) (returned response))).toList =
          if (expectation step).meets response.status then []
            else [labelled (step.label "teardown" index) (returned response)] := by
        split <;> rfl
      rw [hexchanges, hsent, hrun, hlist]
      exact hdown
    | error e =>
      obtain ⟨hstep, hmarks⟩ := runTeardownStep_of_error client network scope index step world e ha
      obtain ⟨hrun, hcourse⟩ := runTeardown_cons client network scope index step rest world _ _ hstep
      have hdown := TornDown.refused index step rest world e _ _ _ _ ha hrest
      rw [hcourse, hmarks, Mark.exchanges_append, hsilent, Mark.requests_append, List.nil_append,
        hrun]
      exact hdown

end Teardown

section Run
variable (runner : Runner) (network : Network) (scope : ScopeId) (scenario : Scenario)
  (world : World)

/-- The phases of a run up to its verdicts, with the exchanges of setup and of the actions, the
requests that are sent, and the world in which teardown begins. -/
inductive Proceeds (timeUp : Prop) : List Exchange → List Exchange → List WireRequest → World → Prop
  | unbuilt (sent : List WireRequest) (torn : World)
      (h : timeUp ∨ ∃ e, (buildFixtures runner scenario scope).exec network world = (.error e, torn))
      (hp : sent <+:
        Mark.requests ((buildFixtures runner scenario scope).course network world)) :
      Proceeds timeUp [] [] sent torn
  | stopped (ready torn : World) (setup : List Exchange) (sent : List WireRequest)
      (hb : (buildFixtures runner scenario scope).exec network world = (.ok (), ready))
      (hs : Carried runner.client (scenario.retryPolicy runner.client) network scope .setup timeUp 0
        scenario.setup ready setup sent false torn) :
      Proceeds timeUp setup []
        (Mark.requests ((buildFixtures runner scenario scope).course network world) ++ sent) torn
  | acted (ready begun torn : World) (setup actions : List Exchange)
      (sent acted : List WireRequest) (well : Bool)
      (hb : (buildFixtures runner scenario scope).exec network world = (.ok (), ready))
      (hs : Carried runner.client (scenario.retryPolicy runner.client) network scope .setup timeUp 0
        scenario.setup ready setup sent true begun)
      (ha : Carried runner.client (scenario.retryPolicy runner.client) network scope .acting timeUp 0
        scenario.actions begun actions acted well torn) :
      Proceeds timeUp setup actions
        (Mark.requests ((buildFixtures runner scenario scope).course network world) ++
          (sent ++ acted)) torn

theorem proceeds_mono (timeUp late : Prop) (hl : timeUp → late) (setup actions : List Exchange)
    (sent : List WireRequest) (torn : World)
    (h : scenario.Proceeds runner network scope world timeUp setup actions sent torn) :
    scenario.Proceeds runner network scope world late setup actions sent torn := by
  have hmono := carried_mono runner.client (scenario.retryPolicy runner.client) network scope
  cases h with
  | unbuilt _ _ h hp => exact .unbuilt sent torn (h.imp_left hl) hp
  | stopped ready _ _ asked hb hs =>
    exact .stopped ready torn setup asked hb (hmono _ timeUp late hl _ _ _ _ _ _ _ hs)
  | acted ready begun _ _ _ asked acted well hb hs ha =>
    have hsetup := hmono _ timeUp late hl _ _ _ _ _ _ _ hs
    have hactions := hmono _ timeUp late hl _ _ _ _ _ _ _ ha
    exact .acted ready begun torn setup actions asked acted well hb hsetup hactions

/-- What is recorded of setup and of the actions is recorded of their first steps, and if anything
is recorded of the actions, all of setup was answered as expected. -/
theorem steps_of_proceeds (timeUp : Prop) (setup actions : List Exchange) (sent : List WireRequest)
    (torn : World) (h : scenario.Proceeds runner network scope world timeUp setup actions sent torn) :
    (∀ i exchange, setup[i]? = some exchange → ∃ (step : RequestStep) (response : Response),
      scenario.setup[i]? = some step ∧
      exchange = Exchange.ofResponse .setup (step.label "setup" i) response) ∧
    (∀ i exchange, actions[i]? = some exchange → ∃ (step : RequestStep) (response : Response),
      scenario.actions[i]? = some step ∧
      exchange = Exchange.ofResponse .acting (step.label "action" i) response) ∧
    (actions ≠ [] → ∀ i step, scenario.setup[i]? = some step → ∃ response : Response,
      (expectation step).meets response.status = true ∧
      setup[i]? = some (Exchange.ofResponse .setup (step.label "setup" i) response)) := by
  have hstep := step_of_carried runner.client (scenario.retryPolicy runner.client) network scope
  cases h with
  | unbuilt _ _ h hp => exact ⟨nofun, nofun, fun hne => absurd rfl hne⟩
  | stopped ready _ _ asked hb hs =>
    refine ⟨fun i exchange hi => ?_, nofun, fun hne => absurd rfl hne⟩
    have hx := hstep .setup timeUp 0 _ _ _ _ _ _ hs i exchange hi
    rwa [Nat.zero_add] at hx
  | acted ready begun _ _ _ asked acted well hb hs ha =>
    refine ⟨fun i exchange hi => ?_, fun i exchange hi => ?_, fun _ i step hi => ?_⟩
    · have hx := hstep .setup timeUp 0 _ _ _ _ _ _ hs i exchange hi
      rwa [Nat.zero_add] at hx
    · have hx := hstep .acting timeUp 0 _ _ _ _ _ _ ha i exchange hi
      rwa [Nat.zero_add] at hx
    · obtain ⟨response, hm, he⟩ := all_of_carried runner.client _ network scope .setup timeUp 0 _ _ _ _
        _ hs i step hi
      rw [Nat.zero_add] at hm he
      exact ⟨response, (Manner.setup_complaint?_eq_none_iff _ step response).mp hm, he⟩

/-- The building of fixtures records nothing. -/
theorem exchanges_buildFixtures (hu : ∀ fixture ∈ runner.registry, fixture.Unseen) :
    Mark.exchanges ((buildFixtures runner scenario scope).course network world) = [] := by
  rw [buildFixtures]
  split
  · rfl
  · refine Trial.courses_bind network _ Mark.closed_exchanges_nil _ _ ?_ (fun _ _ => rfl) world
    exact Fixture.courses_buildAll network _ Mark.closed_exchanges_nil runner.registry _ scope
      (fun fixture hf _ params => hu fixture hf network _ params) scenario.fixtures

/-- However the phases end, their exchanges are those of a prefix of the steps. -/
theorem proceeds_of_endsAs (hu : ∀ fixture ∈ runner.registry, fixture.Unseen) (limit : Nat)
    (outcome : Option (Except Error (List Verdict))) (torn : World) (marks : List Mark)
    (h : (scenario.runPhases runner scope).EndsAs network limit world outcome torn marks) :
    ∃ setup actions,
      scenario.Proceeds runner network scope world (outcome = none) setup actions
        (Mark.requests marks) torn ∧
      Mark.exchanges marks = setup ++ actions := by
  have hunseen := exchanges_buildFixtures runner network scope scenario world hu
  rw [runPhases] at h
  obtain ⟨back, hbuild, rfl⟩ := Trial.endsAs_tell network _ _ _ _ _ _ _ h
  rw [Mark.exchanges_entered, Mark.requests_noted_cons]
  rcases Trial.endsAs_bind network _ _ _ _ _ _ _ hbuild with
    ⟨_, ready, left, back, hb, hsetup, rfl⟩ | ⟨e, hb, -, rfl⟩ | ⟨hnone, -, hcut⟩
  · rw [Mark.exchanges_append, Mark.requests_append, hunseen, List.nil_append]
    rw [Manner.runSetup_eq, bind_assoc] at hsetup
    rcases carried_of_endsAs _ _ _ _ _ _ _ _ _ _ _ _ _ hsetup with
      ⟨_, begun, setup, sent, left, back, hs, hentered, hexchanges, hrequests⟩ | hs
    · rw [pure_bind] at hentered
      obtain ⟨back, hacting, rfl⟩ := Trial.endsAs_tell network _ _ _ _ _ _ _ hentered
      rw [hexchanges, hrequests, Mark.exchanges_entered, Mark.requests_noted_cons]
      simp only [Manner.runActions_eq] at hacting
      rcases carried_of_endsAs _ _ _ _ _ _ _ _ _ _ _ _ _ hacting with
        ⟨responses, ended, actions, acted, left, last, ha, hjudged, hexchanges, hrequests⟩ | ha
      · -- Behind the actions nothing is recorded or sent, and nothing changes.
        obtain ⟨last, hread, rfl⟩ := Trial.endsAs_tell network _ _ _ _ _ _ _ hjudged
        obtain rfl : ended = torn := congrArg Prod.snd hread.run
        obtain rfl : [] = last := hread.course
        rw [hexchanges, hrequests, Mark.exchanges_entered, Mark.requests_noted_cons,
          Mark.exchanges_nil, Mark.requests_nil, List.append_nil, List.append_nil]
        exact ⟨setup, actions, .acted ready begun ended setup actions sent acted true hb hs ha, rfl⟩
      · exact ⟨setup, _, .acted ready begun torn setup _ sent _ false hb hs ha, rfl⟩
    · exact ⟨_, [], .stopped ready torn _ _ hb hs, (List.append_nil _).symm⟩
  · exact ⟨[], [], .unbuilt _ torn (Or.inr ⟨e, hb⟩) (List.prefix_refl _), hunseen⟩
  · -- Time is up while the fixtures are built.
    have hrequests := Mark.requests_of_cutOff _ _ hcut
    exact ⟨[], [], .unbuilt _ torn (Or.inl hnone) hrequests, Mark.exchanges_of_cutOff _ _ hcut hunseen⟩

/-- The course of a run is that of its phases and then that of its teardown, and its report is made
of what both let be seen. -/
theorem run_course :
    let phases := (scenario.runPhases runner scope).run.within (scenario.timeLimit runner)
    let teardown := runTeardown runner.client scope 0 scenario.teardown
    let torn := scenario.torn runner network scope world
    let report := ((scenario.run runner scope).run network world).1
    report.exchanges = Mark.exchanges (phases.course network world) ++
      Mark.exchanges (teardown.course network torn) ∧
    report.teardownErrors = (teardown.run network torn).1 ∧
    report.failure = failure? (scenario.timeLimit runner) (Mark.events (phases.course network world))
      (phases.run network world).1 ∧
    ((scenario.run runner scope).run network world).2 = (teardown.run network torn).2 ∧
    (scenario.run runner scope).course network world =
      Mark.waits (phases.course network world) ++ Mark.waits (teardown.course network torn) := by
  have hphases := Routine.run_collect_eq network
    ((scenario.runPhases runner scope).run.within (scenario.timeLimit runner)) world
  have hteardown := Routine.run_collect_eq network
    (runTeardown runner.client scope 0 scenario.teardown) (scenario.torn runner network scope world)
  rw [torn] at hteardown
  have hcourse : (scenario.run runner scope).course network world =
      Mark.waits (((scenario.runPhases runner scope).run.within (scenario.timeLimit runner)).course
        network world) ++
      Mark.waits ((runTeardown runner.client scope 0 scenario.teardown).course network
        (scenario.torn runner network scope world)) := by
    rw [run]
    refine (Routine.course_bind network _ _ world).trans ?_
    rw [hphases, Routine.course_collect]
    refine congrArg _ ((Routine.course_bind network _ _ _).trans ?_)
    rw [Routine.course_collect]
    exact List.append_nil _
  rw [run, Routine.run_monad_bind, hphases, Routine.run_monad_bind, hteardown]
  exact ⟨List.filterMap_append, rfl, rfl, rfl, hcourse⟩

/-- What a run records is in order: the exchanges of setup, those of the actions if all of setup was
answered as expected, and those of teardown. Setup and the actions stop at the first step that
fails, or when time is up, and nothing more is sent for them; teardown tries each of its steps. -/
theorem exchanges_in_order (hu : ∀ fixture ∈ runner.registry, fixture.Unseen) :
    let report := ((scenario.run runner scope).run network world).1
    let timeUp := ∃ phase limit, report.failure = some ⟨phase, .timeout limit⟩
    ∃ setup actions teardown sent last torn,
      report.exchanges = setup ++ actions ++ teardown ∧
      Mark.requests ((scenario.run runner scope).course network world) = sent ++ last ∧
      scenario.Proceeds runner network scope world timeUp setup actions sent torn ∧
      TornDown runner.client network scope 0 scenario.teardown torn teardown report.teardownErrors
        last ((scenario.run runner scope).run network world).2 ∧
      (∀ i exchange, setup[i]? = some exchange → ∃ (step : RequestStep) (response : Response),
        scenario.setup[i]? = some step ∧
        exchange = Exchange.ofResponse .setup (step.label "setup" i) response) ∧
      (∀ i exchange, actions[i]? = some exchange → ∃ (step : RequestStep) (response : Response),
        scenario.actions[i]? = some step ∧
        exchange = Exchange.ofResponse .acting (step.label "action" i) response) ∧
      (actions ≠ [] → ∀ i step, scenario.setup[i]? = some step → ∃ response : Response,
        (expectation step).meets response.status = true ∧
        setup[i]? = some (Exchange.ofResponse .setup (step.label "setup" i) response)) := by
  intro report timeUp
  obtain ⟨hexchanges, hcomplaints, hfailure, hafter, hcourse⟩ :=
    run_course runner network scope scenario world
  rcases hr : ((scenario.runPhases runner scope).run.within (scenario.timeLimit runner)).run network
    world with ⟨outcome, torn⟩
  have htorn : scenario.torn runner network scope world = torn := congrArg Prod.snd hr
  obtain ⟨setup, actions, hproceeds, hphases⟩ := proceeds_of_endsAs runner network scope scenario world
    hu (scenario.timeLimit runner) outcome torn _ ⟨hr, rfl⟩
  have hlate : outcome = none → timeUp := by
    rintro rfl
    rw [hr] at hfailure
    exact ⟨_, _, hfailure⟩
  have hdown := tornDown_runTeardown runner.client network scope 0 scenario.teardown torn
  rw [htorn] at hexchanges hcomplaints hafter hcourse
  rw [← hcomplaints, ← hafter] at hdown
  have hsent := congrArg Mark.requests hcourse
  rw [Mark.requests_append, Mark.requests_waits, Mark.requests_waits] at hsent
  have hall := proceeds_mono runner network scope scenario world _ timeUp hlate setup actions _ torn
    hproceeds
  obtain ⟨hsetup, hactions, hmet⟩ :=
    steps_of_proceeds runner network scope scenario world timeUp setup actions _ torn hall
  have hexact : report.exchanges = setup ++ actions ++ Mark.exchanges
      ((runTeardown runner.client scope 0 scenario.teardown).course network torn) := by
    rw [← hphases, hexchanges]
  exact ⟨setup, actions, _, _, _, torn, hexact, hsent, hall, hdown, hsetup, hactions, hmet⟩

end Run

def keyed : Scenario where
  name := "keyed"
  setup := [{ request := .new .post "/rooms" }, { id := some "key", request := .new .post "/keys" }]
  actions := [{ request := .new .get "/rooms/1" }]
  assertions := [.ofStatus "found" 200]
  teardown := [{ request := .new .delete "/keys/1" }, { request := .new .delete "/rooms/1" }]

def keyedNetwork : Network := fun _ request =>
  if request.url = "http://api.test/rooms" then .answered 1 { status := 201 }
  else if request.url = "http://api.test/keys" then .answered 1 { status := 409 }
  else if request.url = "http://api.test/keys/1" then .answered 1 { status := 404 }
  else .broken 1

/-- The second step of setup is recorded and no action is tried, and teardown goes on behind the key
that it did not find. -/
theorem exchanges_in_order_keyed :
    let world : World := ⟨[⟨"root", none, []⟩], [], []⟩
    let report := ((keyed.run ticketingRunner 0).run keyedNetwork world).1
    report.exchanges.map Exchange.label = ["setup#1", "key", "teardown#1"] ∧
    report.exchanges.map Exchange.status = [201, 409, 404] ∧
    report.teardownErrors = ["teardown#1: DELETE http://api.test/keys/1 returned 404",
      "teardown#2: Transport error: error sending request for url (http://api.test/rooms/1)"] ∧
    ∃ setup teardown, report.exchanges = setup ++ teardown ∧
      ∀ i exchange, setup[i]? = some exchange → ∃ (step : RequestStep) (response : Response),
        keyed.setup[i]? = some step ∧
        exchange = Exchange.ofResponse .setup (step.label "setup" i) response := by
  intro world report
  have hlabels : report.exchanges.map Exchange.label = ["setup#1", "key", "teardown#1"] := by
    decide +kernel
  have hstatus : report.exchanges.map Exchange.status = [201, 409, 404] := by decide +kernel
  have herrors : report.teardownErrors = ["teardown#1: DELETE http://api.test/keys/1 returned 404",
      "teardown#2: Transport error: error sending request for url (http://api.test/rooms/1)"] := by
    decide +kernel
  have hu := Registry.unseen_of_isStandard ticketingRunner.registry fun _ h => Or.inl h
  obtain ⟨setup, actions, teardown, sent, last, torn, hexact, -, -, -, hsetup, -, -⟩ :=
    exchanges_in_order ticketingRunner keyedNetwork 0 keyed world hu
  refine ⟨hlabels, hstatus, herrors, setup, actions ++ teardown, ?_, hsetup⟩
  rw [hexact, List.append_assoc]

end Scenario

end ApiTrial
