import ApiTrial.Proofs.RequestResolved
import ApiTrial.Scenario.Suite

/-! Which steps a run tries, and in which world. Setup, actions and teardown walk through their steps
in the same way, from the world that a step leaves to the next step; `Walk` is what they share. -/
namespace ApiTrial.Scenario

inductive Walk (one : Nat → RequestStep → World → World → Prop) :
    Nat → List RequestStep → World → World → Prop where
  | nil (index : Nat) (w : World) : Walk one index [] w w
  | cons (index : Nat) (step : RequestStep) (rest : List RequestStep) (w middle after : World)
      (h : one index step w middle) (ht : Walk one (index + 1) rest middle after) :
      Walk one index (step :: rest) w after

/-- A walk passes through the world between any two parts of its steps. -/
theorem walk_append (one : Nat → RequestStep → World → World → Prop) (index : Nat)
    (front back : List RequestStep) (w after : World) (h : Walk one index (front ++ back) w after) :
    ∃ middle, Walk one index front w middle ∧ Walk one (index + front.length) back middle after := by
  induction front generalizing index w with
  | nil => exact ⟨w, .nil index w, h⟩
  | cons step rest ih =>
    cases h with
    | cons _ _ _ _ m _ hs ht =>
      obtain ⟨middle, hfront, hback⟩ := ih (index + 1) m ht
      rw [Nat.add_assoc, Nat.add_comm 1, ← List.length_cons] at hback
      exact ⟨middle, .cons index step rest w m middle hs hfront, hback⟩

section Phases
variable (client : Client) (retry : RetryPolicy) (network : Network) (scope : ScopeId)

/-- A setup goes well along a walk through its steps. -/
theorem runSetup_iff_walk (index : Nat) (steps : List RequestStep) (world after : World) :
    (runSetup client retry scope index steps).exec network world = (.ok (), after) ↔
      Walk (fun i step w m => (runSetupStep client retry scope i step).exec network w = (.ok (), m))
        index steps world after := by
  induction steps generalizing index world with
  | nil =>
    constructor
    · intro h
      cases h
      exact .nil index _
    · rintro ⟨⟩
      rfl
  | cons step rest ih =>
    rw [runSetup]
    constructor
    · intro h
      obtain ⟨u, middle, hs, hr⟩ := Trial.exec_bind_ok _ _ _ _ _ _ h
      exact .cons _ _ _ _ middle _ hs ((ih _ _).mp hr)
    · intro h
      cases h with
      | cons _ _ _ _ middle _ hs hr =>
        rw [Trial.exec_bind_of_ok _ _ _ _ middle () hs]
        exact (ih _ _).mpr hr

/-- Actions go well along a walk through their steps. -/
theorem runActions_iff_walk (index : Nat) (steps : List RequestStep) (world after : World) :
    (∃ responses,
        (runActions client retry scope index steps).exec network world = (.ok responses, after)) ↔
      Walk (fun i step w m => ∃ labelled,
          (runAction client retry scope i step).exec network w = (.ok labelled, m))
        index steps world after := by
  induction steps generalizing index world with
  | nil =>
    constructor
    · rintro ⟨responses, h⟩
      cases h
      exact .nil index _
    · rintro ⟨⟩
      exact ⟨[], rfl⟩
  | cons step rest ih =>
    rw [runActions]
    constructor
    · rintro ⟨responses, h⟩
      obtain ⟨labelled, middle, hs, h1⟩ := Trial.exec_bind_ok _ _ _ _ _ _ h
      obtain ⟨others, last, hr, h2⟩ := Trial.exec_bind_ok _ _ _ _ _ _ h1
      cases h2
      exact .cons _ _ _ _ middle _ ⟨labelled, hs⟩ ((ih _ _).mp ⟨others, hr⟩)
    · intro h
      cases h with
      | cons _ _ _ _ middle _ hs hr =>
        obtain ⟨labelled, hs⟩ := hs
        obtain ⟨others, hr⟩ := (ih _ _).mpr hr
        refine ⟨labelled :: others, ?_⟩
        rw [Trial.exec_bind_of_ok _ _ _ _ middle labelled hs,
          Trial.exec_bind_of_ok _ _ _ _ after others hr]
        rfl

/-- A teardown always walks through all of its steps. -/
theorem runTeardown_iff_walk (index : Nat) (steps : List RequestStep) (world after : World) :
    ((runTeardown client scope index steps).run network world).2 = after ↔
      Walk (fun i step w m => ((runTeardownStep client scope i step).run network w).2 = m)
        index steps world after := by
  induction steps generalizing index world with
  | nil =>
    constructor
    · intro h
      cases h
      exact .nil index _
    · rintro ⟨⟩
      rfl
  | cons step rest ih =>
    have hx : ((runTeardown client scope index (step :: rest)).run network world).2 =
        ((runTeardown client scope (index + 1) rest).run network
          ((runTeardownStep client scope index step).run network world).2).2 := by
      rw [runTeardown, Routine.run_monad_bind, Routine.run_monad_bind]
      rfl
    rw [hx, ih]
    constructor
    · exact fun h => .cons _ _ _ _ _ _ rfl h
    · intro h
      cases h with
      | cons _ _ _ _ middle _ hs hr => exact hs ▸ hr

/-- All that a step of teardown does to the world is to send its request. -/
theorem world_of_runTeardownStep (index : Nat) (step : RequestStep) (world : World) :
    ((runTeardownStep client scope index step).run network world).2 =
      ((client.execute step.request scope).exec network world).2 := by
  rw [runTeardownStep, Routine.run_monad_bind]
  show (Routine.run network _ ((client.execute step.request scope).exec network world).2).2 = _
  cases (Routine.run network (client.execute step.request scope).run world).1 <;> rfl

/-- Teardown captures nothing, so it leaves all variables as they are. -/
theorem store_of_runTeardownStep (index : Nat) (step : RequestStep) (world : World) :
    ((runTeardownStep client scope index step).run network world).2.store = world.store := by
  rw [world_of_runTeardownStep]
  exact Client.store_of_executeWith network client client.retry step.request scope world

theorem store_of_runTeardown (steps : List RequestStep) (index : Nat) (world : World) :
    ((runTeardown client scope index steps).run network world).2.store = world.store := by
  have hwalk := (runTeardown_iff_walk client network scope index steps world _).mp rfl
  generalize ((runTeardown client scope index steps).run network world).2 = after at hwalk
  induction hwalk with
  | nil index w => rfl
  | cons index step rest w middle after h ht ih =>
    rw [ih, ← h]
    exact store_of_runTeardownStep client network scope index step w

end Phases

def answer (client : Client) (retry : RetryPolicy) (network : Network) (scope : ScopeId)
    (step : RequestStep) (reached : World) : Except Error Response :=
  ((client.executeWith retry step.request scope).exec network reached).1

section Run
variable (runner : Runner) (network : Network) (scope : ScopeId) (scenario : Scenario)
  (world : World) (step : RequestStep) (reached : World)

def TriesSetup : Prop :=
  ∃ front rest ready, scenario.setup = front ++ step :: rest ∧
    (buildFixtures runner scenario scope).exec network world = (.ok (), ready) ∧
    (runSetup runner.client (scenario.retryPolicy runner.client) scope 0 front).exec network ready =
      (.ok (), reached)

def TriesAction : Prop :=
  ∃ front rest ready begun responses, scenario.actions = front ++ step :: rest ∧
    (buildFixtures runner scenario scope).exec network world = (.ok (), ready) ∧
    (runSetup runner.client (scenario.retryPolicy runner.client) scope 0 scenario.setup).exec network
      ready = (.ok (), begun) ∧
    (runActions runner.client (scenario.retryPolicy runner.client) scope 0 front).exec network
      begun = (.ok responses, reached)

def torn : World :=
  (((scenario.runPhases runner scope).run.within (scenario.timeLimit runner)).run network world).2

def TriesTeardown : Prop :=
  ∃ front rest, scenario.teardown = front ++ step :: rest ∧
    ((runTeardown runner.client scope 0 front).run network
      (scenario.torn runner network scope world)).2 = reached

end Run

structure AnswersWell (client : Client) (retry : RetryPolicy) (network : Network) (scope : ScopeId)
    (step : RequestStep) (reached : World) : Prop where
  connected : ∀ reason, answer client retry network scope step reached ≠ .error (.transport reason)
  complete : ∀ response, answer client retry network scope step reached = .ok response →
    ∀ capture ∈ step.capture, (response.capture? capture.2).isSome = true

/-- Nothing goes wrong on the side of the server and the fixtures: these are built, connections
hold, setup is answered as expected, what is captured is there, and the time suffices. -/
structure GoesWell (runner : Runner) (network : Network) (scope : ScopeId) (scenario : Scenario)
    (world : World) : Prop where
  built : ∃ ready, (buildFixtures runner scenario scope).exec network world = (.ok (), ready)
  setup : ∀ step reached, scenario.TriesSetup runner network scope world step reached →
    AnswersWell runner.client (scenario.retryPolicy runner.client) network scope step reached ∧
    ∀ response, answer runner.client (scenario.retryPolicy runner.client) network scope step
      reached = .ok response → (expectation step).meets response.status = true
  actions : ∀ step reached, scenario.TriesAction runner network scope world step reached →
    AnswersWell runner.client (scenario.retryPolicy runner.client) network scope step reached
  inTime : ∀ phase limit,
    ((scenario.run runner scope).run network world).1.failure ≠ some ⟨phase, .timeout limit⟩

def Sendable (runner : Runner) (network : Network) (scope : ScopeId) (scenario : Scenario)
    (world : World) : Prop :=
  ∀ step reached reason, scenario.TriesSetup runner network scope world step reached ∨
      scenario.TriesAction runner network scope world step reached →
    answer runner.client (scenario.retryPolicy runner.client) network scope step reached ≠
      .error (.invalidRequest reason)

/-- No step of a run fails because of a placeholder, nor does an assertion. -/
structure FillsIn (runner : Runner) (network : Network) (scope : ScopeId) (scenario : Scenario)
    (world : World) : Prop where
  setup : ∀ step reached e, scenario.TriesSetup runner network scope world step reached →
    answer runner.client (scenario.retryPolicy runner.client) network scope step reached =
      .error e → e.isSubstitution = false
  actions : ∀ step reached e, scenario.TriesAction runner network scope world step reached →
    answer runner.client (scenario.retryPolicy runner.client) network scope step reached =
      .error e → e.isSubstitution = false
  teardown : ∀ step reached e, scenario.TriesTeardown runner network scope world step reached →
    answer runner.client runner.client.retry network scope step reached = .error e →
    e.isSubstitution = false
  verdicts : ∀ verdict ∈ ((scenario.run runner scope).run network world).1.verdicts,
    ∀ e, verdict.message ≠ some (Expected.unresolved e)

section Run
variable (runner : Runner) (network : Network) (scope : ScopeId) (scenario : Scenario)
  (world : World)

/-- The phases come to verdicts exactly if each of them goes well. -/
theorem runPhases_ok_iff (verdicts : List Verdict) (after : World) :
    (scenario.runPhases runner scope).exec network world = (.ok verdicts, after) ↔
      ∃ ready begun responses,
        (buildFixtures runner scenario scope).exec network world = (.ok (), ready) ∧
        (runSetup runner.client (scenario.retryPolicy runner.client) scope 0 scenario.setup).exec
          network ready = (.ok (), begun) ∧
        (runActions runner.client (scenario.retryPolicy runner.client) scope 0
          scenario.actions).exec network begun = (.ok responses, after) ∧
        verdicts = scenario.verdicts scope responses after := by
  rw [runPhases]
  constructor
  · intro h
    obtain ⟨_, entered, ht, h⟩ := Trial.exec_bind_ok _ _ _ _ _ _ h
    cases ht
    obtain ⟨_, ready, hb, h⟩ := Trial.exec_bind_ok _ _ _ _ _ _ h
    obtain ⟨_, begun, hs, h⟩ := Trial.exec_bind_ok _ _ _ _ _ _ h
    obtain ⟨_, acting, ht, h⟩ := Trial.exec_bind_ok _ _ _ _ _ _ h
    cases ht
    obtain ⟨responses, reached, ha, h⟩ := Trial.exec_bind_ok _ _ _ _ _ _ h
    obtain ⟨_, asserting, ht, h⟩ := Trial.exec_bind_ok _ _ _ _ _ _ h
    cases ht
    cases h
    exact ⟨ready, begun, responses, hb, hs, ha, rfl⟩
  · rintro ⟨ready, begun, responses, hb, hs, ha, rfl⟩
    rw [Trial.exec_bind_of_ok _ _ _ _ world () (Trial.exec_tell _ _ _),
      Trial.exec_bind_of_ok _ _ _ _ ready () hb, Trial.exec_bind_of_ok _ _ _ _ begun () hs,
      Trial.exec_bind_of_ok _ _ _ _ begun () (Trial.exec_tell _ _ _),
      Trial.exec_bind_of_ok _ _ _ _ after responses ha,
      Trial.exec_bind_of_ok _ _ _ _ after () (Trial.exec_tell _ _ _)]
    rfl

/-- A report is made of what was seen of the phases and of how they ended, and the world behind a
run is that behind its teardown. -/
theorem run_eq : ∃ seen,
    let phases := (scenario.runPhases runner scope).run.within (scenario.timeLimit runner)
    let outcome := (phases.run network world).1
    let failure := failure? (scenario.timeLimit runner) seen outcome
    let report := ((scenario.run runner scope).run network world).1
    (phases.collect.run network world).1 = (seen, outcome) ∧
    report.failure = failure ∧ report.verdicts = verdictsOf outcome ∧
    report.trace = phasesEntered seen ++ (if failure.isSome then [.failed] else []) ++
      [.teardown, .done] ∧
    ((scenario.run runner scope).run network world).2 =
      ((runTeardown runner.client scope 0 scenario.teardown).run network
        (scenario.torn runner network scope world)).2 := by
  obtain ⟨seen, hs⟩ := Routine.run_collect network
    ((scenario.runPhases runner scope).run.within (scenario.timeLimit runner)) world
  obtain ⟨late, hl⟩ := Routine.run_collect network
    (runTeardown runner.client scope 0 scenario.teardown) (scenario.torn runner network scope world)
  refine ⟨seen, by rw [hs], ?_⟩
  rw [torn] at hl
  rw [run, Routine.run_monad_bind, hs, Routine.run_monad_bind, hl]
  exact ⟨rfl, rfl, rfl, rfl⟩

/-- A run that is not cut short by its time limit ends as its phases do. -/
theorem run_of_inTime (outcome : Except Error (List Verdict)) (reached : World)
    (hp : (scenario.runPhases runner scope).exec network world = (outcome, reached))
    (hi : ∀ phase limit,
      ((scenario.run runner scope).run network world).1.failure ≠ some ⟨phase, .timeout limit⟩) :
    (∃ seen, ((scenario.run runner scope).run network world).1.failure =
      failure? (scenario.timeLimit runner) seen (some outcome)) ∧
    ((scenario.run runner scope).run network world).1.verdicts = verdictsOf (some outcome) ∧
    scenario.torn runner network scope world = reached := by
  obtain ⟨seen, -, hf, hv, -, -⟩ := run_eq runner network scope scenario world
  rcases hc : ((scenario.runPhases runner scope).run.within (scenario.timeLimit runner)).run network
    world with ⟨cut, w⟩
  rw [hc] at hf hv
  cases cut with
  | none => exact absurd hf (hi _ _)
  | some a =>
    have hx := Routine.run_of_within network _ _ world w a hc
    rw [Trial.exec] at hp
    obtain ⟨rfl, rfl⟩ := Prod.mk.inj (hx.symm.trans hp)
    exact ⟨⟨seen, hf⟩, hv, by rw [torn, hc]⟩

end Run

section Single
variable (runner : Runner) (network : Network) (scope : ScopeId) (scenario : Scenario)
  (world : World) (action : RequestStep) (hf : scenario.fixtures = []) (hs : scenario.setup = [])
  (ha : scenario.actions = [action])
include hf hs ha

/-- A scenario that is nothing but one action and its teardown tries this action at once. -/
theorem tries_of_single (step : RequestStep) (reached : World) :
    ¬ scenario.TriesSetup runner network scope world step reached ∧
    (scenario.TriesAction runner network scope world step reached →
      step = action ∧ reached = world) := by
  have hb : (buildFixtures runner scenario scope).exec network world = (.ok (), world) := by
    rw [buildFixtures, hf]
    rfl
  constructor
  · rintro ⟨front, rest, _, he, -, -⟩
    simp [hs] at he
  · rintro ⟨front, rest, ready, begun, responses, he, hr, hset, hact⟩
    rw [ha] at he
    rw [hb] at hr
    cases hr
    rw [hs] at hset
    cases hset
    cases front with
    | nil =>
      cases hact
      exact ⟨(List.cons.inj he).1.symm, rfl⟩
    | cons c front => simp at he

theorem goesWell_of_single
    (hg : AnswersWell runner.client (scenario.retryPolicy runner.client) network scope action world)
    (hi : ∀ phase limit,
      ((scenario.run runner scope).run network world).1.failure ≠ some ⟨phase, .timeout limit⟩) :
    scenario.GoesWell runner network scope world where
  built := ⟨world, by rw [buildFixtures, hf]; rfl⟩
  setup := fun step reached ht =>
    absurd ht (tries_of_single runner network scope scenario world action hf hs ha step reached).1
  actions := by
    intro step reached ht
    obtain ⟨rfl, rfl⟩ :=
      (tries_of_single runner network scope scenario world action hf hs ha step reached).2 ht
    exact hg
  inTime := hi

theorem sendable_of_single
    (hg : ∀ reason, answer runner.client (scenario.retryPolicy runner.client) network scope action
      world ≠ .error (.invalidRequest reason)) :
    scenario.Sendable runner network scope world := by
  intro step reached reason ht
  have hx := tries_of_single runner network scope scenario world action hf hs ha step reached
  obtain ⟨rfl, rfl⟩ := hx.2 (ht.resolve_left hx.1)
  exact hg reason

end Single

end ApiTrial.Scenario
