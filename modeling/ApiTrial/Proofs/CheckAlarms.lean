import ApiTrial.Proofs.CheckBound
import ApiTrial.Proofs.CheckSound
import ApiTrial.Proofs.TemplateGrammar

/-! Every finding tells of a failure. A key that the check does not take to be set is not there in
any run, so a step that uses it is never sent and an assertion that reads it does not hold. Whatever
servers answer, a scenario with a finding at its plan, a step or an assertion does not pass. -/
namespace ApiTrial

section Verdicts
variable (value? : String → Option Json)

theorem eq_ok_of_whenSet {α : Type} (part : Option α) (check : α → Except String Unit) (a : α)
    (h : whenSet part check = .ok ()) (ha : part = some a) : check a = .ok () := by
  rw [ha] at h
  exact h

theorem hasText_of_text (source text : String) (h : Expected.text value? source = .ok text) :
    HasText value? source := by
  rw [Expected.text] at h
  cases hs : Template.substitute source value? with
  | ok filled => exact ⟨filled, hs⟩
  | error e =>
    rw [hs] at h
    cases h

/-- A text that opens no placeholder is its own value. -/
theorem hasText_of_plain (source : String) (h : Text.occurs Expected.templateMark source = false) :
    HasText value? source := by
  have hread := Template.readFrom_plain [] 0 source.toList h
  rw [HasText, Template.substitute, Template.parse, hread, List.append_nil]
  dsimp only [Template.render, Template.literal]
  split <;> exact ⟨_, rfl⟩

theorem hasText_of_resolve (value : Json) (source : String) (expected : Expected)
    (h : Expected.resolve value? value = .ok expected) (hs : value.str? = some source) :
    HasText value? source := by
  cases value with
  | str text =>
    obtain rfl : text = source := Option.some.inj hs
    rw [Expected.resolve] at h
    split at h
    · obtain ⟨filled, ht, -⟩ := ok_of_bind_eq_ok _ _ _ h
      exact hasText_of_text value? text filled ht
    · rename_i hplain
      exact hasText_of_plain value? text (Bool.eq_false_iff.mpr hplain)
  | _ => cases hs

theorem hasText_of_variable (expected : VariableExpectation) (source : String)
    (h : expected.check value? = .ok ()) (hs : expected.equals.bind Json.str? = some source) :
    HasText value? source := by
  obtain ⟨value, hv, hs⟩ := Option.bind_eq_some_iff.mp hs
  obtain ⟨_, -, h⟩ := ok_of_bind_eq_ok _ _ _ h
  obtain ⟨wanted, hw, -⟩ := ok_of_bind_eq_ok _ _ _ (eq_ok_of_whenSet _ _ value h hv)
  exact hasText_of_resolve value? value source wanted hw hs

theorem hasText_of_json (expected : JsonExpectation) (actual : Option Json) (source : String)
    (h : expected.check actual value? = .ok ())
    (hs : expected.equals.bind Json.str? = some source ∨ expected.contains = some source) :
    HasText value? source := by
  obtain ⟨_, -, h⟩ := ok_of_bind_eq_ok _ _ _ h
  obtain ⟨_, hequals, hcontains⟩ := ok_of_bind_eq_ok _ _ _ h
  rcases hs with hs | hs
  · obtain ⟨value, hv, hs⟩ := Option.bind_eq_some_iff.mp hs
    obtain ⟨wanted, hw, -⟩ := ok_of_bind_eq_ok _ _ _ (eq_ok_of_whenSet _ _ value hequals hv)
    exact hasText_of_resolve value? value source wanted hw hs
  · obtain ⟨needle, hn, -⟩ := ok_of_bind_eq_ok _ _ _ (eq_ok_of_whenSet _ _ source hcontains hs)
    exact hasText_of_text value? source needle hn

theorem hasText_of_header (expected : HeaderExpectation) (actual : Option String) (source : String)
    (h : expected.check actual value? = .ok ()) (hs : expected.equals = some source) :
    HasText value? source := by
  obtain ⟨_, -, h⟩ := ok_of_bind_eq_ok _ _ _ h
  obtain ⟨wanted, hw, -⟩ := ok_of_bind_eq_ok _ _ _ (eq_ok_of_whenSet _ _ source h hs)
  exact hasText_of_text value? source wanted hw

theorem hasText_of_response (a : Assertion) (response : Response) (source : String)
    (h : a.checkResponse value? response = .ok ())
    (hs : (∃ expected, a.json = some expected ∧
        (expected.equals.bind Json.str? = some source ∨ expected.contains = some source)) ∨
      ∃ expected, a.header = some expected ∧ expected.equals = some source) :
    HasText value? source := by
  obtain ⟨_, -, h⟩ := ok_of_bind_eq_ok _ _ _ h
  obtain ⟨_, -, h⟩ := ok_of_bind_eq_ok _ _ _ h
  obtain ⟨_, -, h⟩ := ok_of_bind_eq_ok _ _ _ h
  obtain ⟨_, hjson, hheader⟩ := ok_of_bind_eq_ok _ _ _ h
  rcases hs with ⟨expected, he, hs⟩ | ⟨expected, he, hs⟩
  · exact hasText_of_json value? expected _ source (eq_ok_of_whenSet _ _ expected hjson he) hs
  · exact hasText_of_header value? expected _ source (eq_ok_of_whenSet _ _ expected hheader he) hs

theorem Check.mem_texts_iff (a : Assertion) (source : String) :
    source ∈ texts a ↔
      ((∃ expected, a.json = some expected ∧
          (expected.equals.bind Json.str? = some source ∨ expected.contains = some source)) ∨
        ∃ expected, a.header = some expected ∧ expected.equals = some source) ∨
      ∃ expected, a.binding = some expected ∧ expected.equals.bind Json.str? = some source := by
  simp only [texts, List.mem_append, Option.mem_toList, Option.bind_eq_some_iff, and_or_left,
    exists_or]

/-- An assertion holds only where all of its texts have values. -/
theorem hasText_of_passed (a : Assertion) (responses : List Labelled)
    (h : (a.verdict responses value?).passed = true) (source : String)
    (hs : source ∈ Check.texts a) : HasText value? source := by
  have hcheck : a.check responses value? = .ok () := by
    rw [Assertion.verdict] at h
    split at h
    · assumption
    · cases h
  obtain ⟨_, hbinding, hresponse⟩ := ok_of_bind_eq_ok _ _ _ hcheck
  rcases (Check.mem_texts_iff a source).mp hs with hs | ⟨expected, he, hs⟩
  · -- An assertion with a text about the response reads the response.
    have hreads : a.readsResponse = true := by
      rw [Assertion.readsResponse]
      rcases hs with ⟨expected, he, -⟩ | ⟨expected, he, -⟩ <;> simp [he]
    rw [if_pos hreads] at hresponse
    obtain ⟨response, -, hr⟩ := ok_of_bind_eq_ok _ _ _ hresponse
    exact hasText_of_response value? a response source hr hs
  · have hvariable := eq_ok_of_whenSet _ _ expected hbinding he
    exact hasText_of_variable value? expected source hvariable hs

end Verdicts

namespace Check
open Fixture Scenario

/-- Where something is wrong with the keys of a value, it cannot be filled in. -/
theorem error_of_problem {α : Type} (listed : Except Error (List String))
    (fill : (String → Option Json) → Except Error α) (needs : Needs listed fill)
    (available : List String) (scope : Nat) (world : World) (hw : SeesOnly available scope world)
    (problem : String) (hp : problem ∈ problems available listed) :
    ∃ e, fill (world.store.lookup scope) = .error e := by
  cases hfill : fill (world.store.lookup scope) with
  | error e => exact ⟨e, rfl⟩
  | ok a =>
    obtain ⟨keys, rfl, hset⟩ := needs.sets _ a hfill
    rw [problems_eq_nil available keys fun key hk => hw.within key (hset key hk)] at hp
    cases hp

section Steps
variable (client : Client) (retry : RetryPolicy) (network : Network) (scope : Nat) (index : Nat)
  (step : RequestStep) (available : List String) (reached : World)
  (hw : SeesOnly available scope reached) (problem : String)
  (hp : problem ∈ problems available step.request.placeholders)
include hw hp

/-- A step that something is wrong with fails before anything is sent. -/
theorem exec_of_problem :
    ∃ e, (client.executeWith retry step.request scope).exec network reached =
      (.error e, reached) := by
  obtain ⟨e, he⟩ := error_of_problem _ _ step.request.needs_resolve available scope reached hw
    problem hp
  refine ⟨e, Trial.exec_bind_of_error _ _ _ reached reached e ?_⟩
  rw [RequestTemplate.resolveIn, Trial.exec_readExcept, he]

theorem exec_runSetupStep_of_problem :
    ∃ e, (runSetupStep client retry scope index step).exec network reached =
      (.error e, reached) := by
  obtain ⟨e, he⟩ := exec_of_problem client retry network scope step available reached hw problem hp
  refine ⟨_, Trial.exec_bind_of_error _ _ _ reached reached
    (.fixtureFailed (step.label "setup" index) e.message) ?_⟩
  rw [Trial.exec_mapError, he]
  rfl

theorem exec_runAction_of_problem :
    ∃ e, (runAction client retry scope index step).exec network reached = (.error e, reached) := by
  obtain ⟨e, he⟩ := exec_of_problem client retry network scope step available reached hw problem hp
  exact ⟨e, Trial.exec_bind_of_error _ _ _ reached reached e he⟩

end Steps

section Stops
variable (client : Client) (retry : RetryPolicy) (network : Network) (scope : Nat)
  (front : List RequestStep) (step : RequestStep) (rest : List RequestStep) (world reached : World)
  (e : Error)

/-- Setup ends with the first step that fails. -/
theorem exec_runSetup_of_error (index : Nat)
    (hf : (runSetup client retry scope index front).exec network world = (.ok (), reached))
    (hs : (runSetupStep client retry scope (index + front.length) step).exec network reached =
      (.error e, reached)) :
    (runSetup client retry scope index (front ++ step :: rest)).exec network world =
      (.error e, reached) := by
  induction front generalizing index world with
  | nil =>
    cases hf
    exact Trial.exec_bind_of_error _ _ _ _ _ e hs
  | cons first front ih =>
    obtain ⟨_, middle, hfirst, hf⟩ := Trial.exec_bind_ok _ _ _ _ _ _ hf
    rw [List.length_cons, Nat.add_comm front.length, ← Nat.add_assoc] at hs
    rw [List.cons_append, runSetup, Trial.exec_bind_of_ok _ _ _ _ middle () hfirst]
    exact ih middle (index + 1) hf hs

/-- The actions end with the first one that fails. -/
theorem exec_runActions_of_error (index : Nat) (responses : List Labelled)
    (hf : (runActions client retry scope index front).exec network world = (.ok responses, reached))
    (hs : (runAction client retry scope (index + front.length) step).exec network reached =
      (.error e, reached)) :
    (runActions client retry scope index (front ++ step :: rest)).exec network world =
      (.error e, reached) := by
  induction front generalizing index world responses with
  | nil =>
    cases hf
    exact Trial.exec_bind_of_error _ _ _ _ _ e hs
  | cons first front ih =>
    obtain ⟨labelled, middle, hfirst, hf⟩ := Trial.exec_bind_ok _ _ _ _ _ _ hf
    obtain ⟨others, after, hf, hpure⟩ := Trial.exec_bind_ok _ _ _ _ _ _ hf
    cases hpure
    rw [List.length_cons, Nat.add_comm front.length, ← Nat.add_assoc] at hs
    rw [List.cons_append, runActions, Trial.exec_bind_of_ok _ _ _ _ middle labelled hfirst]
    exact Trial.exec_bind_of_error _ _ _ _ _ e (ih middle (index + 1) others hf hs)

end Stops

/-- The steps in front of a position, the one that stands there and those behind it. -/
theorem take_append_cons_drop (steps : List RequestStep) (index : Nat) (step : RequestStep)
    (h : steps[index]? = some step) :
    steps.take index ++ step :: steps.drop (index + 1) = steps := by
  obtain ⟨hlt, rfl⟩ := List.getElem?_eq_some_iff.mp h
  rw [← List.drop_eq_getElem_cons hlt, List.take_append_drop]

/-- A place at which a run can go well in spite of a finding. A key that a fixture requires may be
given with its call, and what goes wrong in teardown does not count. -/
def Place.lenient : Place → Bool
  | requirement | teardown _ => true
  | plan | setup _ | action _ | assertion => false

section Run
variable (runner : Runner) (network : Network) (scope : Nat) (s : Scenario) (start : World)

/-- A run comes to a step in a world: all phases and steps in front of it have gone well. -/
inductive ComesTo : Place → RequestStep → World → Prop
  | setup (index : Nat) (step : RequestStep) (ready reached : World)
      (hi : s.setup[index]? = some step)
      (hb : (buildFixtures runner s scope).exec network start = (.ok (), ready))
      (hs : (runSetup runner.client (s.retryPolicy runner.client) scope 0
        (s.setup.take index)).exec network ready = (.ok (), reached)) :
      ComesTo (.setup index) step reached
  | action (index : Nat) (step : RequestStep) (ready begun reached : World)
      (responses : List Labelled) (hi : s.actions[index]? = some step)
      (hb : (buildFixtures runner s scope).exec network start = (.ok (), ready))
      (hs : (runSetup runner.client (s.retryPolicy runner.client) scope 0 s.setup).exec network
        ready = (.ok (), begun))
      (ha : (runActions runner.client (s.retryPolicy runner.client) scope 0
        (s.actions.take index)).exec network begun = (.ok responses, reached)) :
      ComesTo (.action index) step reached

/-- If the phases go well, the run comes to each step of setup and to each action. -/
theorem exists_comesTo_of_ok (verdicts : List Verdict) (after : World)
    (h : (s.runPhases runner scope).exec network start = (.ok verdicts, after)) (index : Nat)
    (step : RequestStep) :
    (s.setup[index]? = some step →
      ∃ reached, ComesTo runner network scope s start (.setup index) step reached) ∧
    (s.actions[index]? = some step →
      ∃ reached, ComesTo runner network scope s start (.action index) step reached) := by
  obtain ⟨ready, begun, responses, hb, hs, ha, -⟩ :=
    (runPhases_ok_iff runner network scope s start verdicts after).mp h
  constructor
  · intro hi
    have hsplit := take_append_cons_drop s.setup index step hi
    have hwalk := (runSetup_iff_walk _ _ network scope 0 s.setup ready begun).mp hs
    rw [← hsplit] at hwalk
    obtain ⟨reached, hfront, -⟩ := walk_append _ 0 _ _ ready begun hwalk
    exact ⟨reached, .setup index step ready reached hi hb
      ((runSetup_iff_walk _ _ network scope 0 _ ready reached).mpr hfront)⟩
  · intro hi
    have hsplit := take_append_cons_drop s.actions index step hi
    have hwalk := (runActions_iff_walk _ _ network scope 0 s.actions begun after).mp ⟨responses, ha⟩
    rw [← hsplit] at hwalk
    obtain ⟨reached, hfront, -⟩ := walk_append _ 0 _ _ begun after hwalk
    obtain ⟨front, hfront⟩ := (runActions_iff_walk _ _ network scope 0 _ begun reached).mpr hfront
    exact ⟨reached, .action index step ready begun reached front hi hb hs hfront⟩

/-- A run that passes has come through its phases, and every assertion has held behind them. -/
theorem phases_of_passed (h : ((s.run runner scope).run network start).1.passed = true) :
    ∃ ready begun responses after,
      (s.runPhases runner scope).exec network start =
        (.ok (s.verdicts scope responses after), after) ∧
      (buildFixtures runner s scope).exec network start = (.ok (), ready) ∧
      (runSetup runner.client (s.retryPolicy runner.client) scope 0 s.setup).exec network ready =
        (.ok (), begun) ∧
      (runActions runner.client (s.retryPolicy runner.client) scope 0 s.actions).exec network
        begun = (.ok responses, after) ∧
      ∀ a ∈ s.assertions, (a.verdict responses (after.store.lookup scope)).passed = true := by
  rw [Report.passed, Bool.and_eq_true, Option.isNone_iff_eq_none, List.all_eq_true] at h
  obtain ⟨seen, -, hfailure, hverdicts, -⟩ := run_eq runner network scope s start
  rw [hfailure, hverdicts] at h
  rcases hc : ((s.runPhases runner scope).run.within (s.timeLimit runner)).run network start with
    ⟨outcome, after⟩
  rw [hc] at h
  obtain ⟨hnone, hall⟩ := h
  rcases outcome with _ | e | verdicts
  · cases hnone
  · cases hnone
  have hphases : (s.runPhases runner scope).exec network start = (.ok verdicts, after) :=
    Routine.run_of_within network _ _ start after _ hc
  obtain ⟨ready, begun, responses, hb, hs, ha, rfl⟩ :=
    (runPhases_ok_iff runner network scope s start verdicts after).mp hphases
  refine ⟨ready, begun, responses, after, hphases, hb, hs, ha, ?_⟩
  intro a hm
  exact hall _ (List.mem_map_of_mem hm)

section Found
variable (seeded : List String) (hc : ∀ fixture ∈ runner.registry, fixture.Confined)
  (h : SeesOnly seeded scope start) (place : Place) (entry : String × String)
  (hf : FoundAt runner.registry seeded s place entry)
include hc h hf

/-- Where a run comes to a step with a finding, this is not sent, and the phases end there. -/
theorem stops_of_found (step : RequestStep) (reached : World)
    (hr : ComesTo runner network scope s start place step reached) :
    (∃ e, (runner.client.executeWith (s.retryPolicy runner.client) step.request scope).exec network
      reached = (.error e, reached)) ∧
    ∃ e, (s.runPhases runner scope).exec network start = (.error e, reached) := by
  rw [runPhases, Trial.exec_bind_of_ok _ _ _ _ start () (Trial.exec_tell _ _ _)]
  cases hr with
  | setup index step ready reached hi hb hs =>
    cases hf with
    | setup _ step' problem hi' hp =>
      obtain rfl : step = step' := Option.some.inj (hi.symm.trans hi')
      have hsees := seesOnly_of_reaches_setup runner network scope s start seeded hc h ready reached
        _ hb (Trial.reaches_of_exec _ _ _ _ _ hs)
      refine ⟨exec_of_problem _ _ network scope step _ reached hsees problem hp, ?_⟩
      obtain ⟨e, he⟩ := exec_runSetupStep_of_problem runner.client (s.retryPolicy runner.client)
        network scope (0 + (s.setup.take index).length) step _ reached hsees problem hp
      have hall := exec_runSetup_of_error _ _ network scope _ step (s.setup.drop (index + 1)) ready
        reached e 0 hs he
      rw [take_append_cons_drop s.setup index step hi] at hall
      rw [Trial.exec_bind_of_ok _ _ _ _ ready () hb]
      exact ⟨e, Trial.exec_bind_of_error _ _ _ _ _ e hall⟩
  | action index step ready begun reached responses hi hb hs ha =>
    cases hf with
    | action _ step' problem hi' hp =>
      obtain rfl : step = step' := Option.some.inj (hi.symm.trans hi')
      have hsees := seesOnly_of_reaches_actions runner network scope s start seeded hc h ready begun
        reached _ hb hs (Trial.reaches_of_exec _ _ _ _ _ ha)
      refine ⟨exec_of_problem _ _ network scope step _ reached hsees problem hp, ?_⟩
      obtain ⟨e, he⟩ := exec_runAction_of_problem runner.client (s.retryPolicy runner.client)
        network scope (0 + (s.actions.take index).length) step _ reached hsees problem hp
      have hall := exec_runActions_of_error _ _ network scope _ step (s.actions.drop (index + 1))
        begun reached e 0 responses ha he
      rw [take_append_cons_drop s.actions index step hi] at hall
      rw [Trial.exec_bind_of_ok _ _ _ _ ready () hb, Trial.exec_bind_of_ok _ _ _ _ begun () hs,
        Trial.exec_bind_of_ok _ _ _ _ begun () (Trial.exec_tell _ _ _)]
      exact ⟨e, Trial.exec_bind_of_error _ _ _ _ _ e hall⟩

/-- A scenario with a finding at its plan, a step or an assertion does not pass. -/
theorem not_passed_of_found (hl : place.lenient = false) :
    ((s.run runner scope).run network start).1.passed = false := by
  rw [← Bool.not_eq_true]
  intro hpassed
  obtain ⟨ready, begun, responses, after, hphases, hb, hs, ha, hall⟩ :=
    phases_of_passed runner network scope s start hpassed
  have hcomes (index : Nat) (step : RequestStep) :=
    exists_comesTo_of_ok runner network scope s start _ after hphases index step
  have hstops (step : RequestStep) (reached : World) :
      ¬ ComesTo runner network scope s start place step reached := by
    intro hr
    obtain ⟨-, e, he⟩ :=
      stops_of_found runner network scope s start seeded hc h place entry hf step reached hr
    rw [hphases] at he
    cases he
  cases hf with
  | plan e hp =>
    rw [buildFixtures] at hb
    split at hb
    · rename_i hempty
      rw [List.isEmpty_iff.mp hempty] at hp
      cases hp
    · rw [Trial.exec_bind_of_error _ _ _ _ start e
        (exec_buildAll_of_plan_error _ _ _ network _ start e hp)] at hb
      cases hb
  | requirement => cases hl
  | setup index step problem hi hp =>
    obtain ⟨reached, hr⟩ := (hcomes index step).1 hi
    exact hstops step reached hr
  | action index step problem hi hp =>
    obtain ⟨reached, hr⟩ := (hcomes index step).2 hi
    exact hstops step reached hr
  | assertion a source problem hm ht hp =>
    have hsees := seesOnly_of_reaches_actions runner network scope s start seeded hc h ready begun
      after s.actions hb hs (Trial.reaches_of_exec _ _ _ _ _ ha)
    obtain ⟨e, he⟩ := error_of_problem _ _ (Template.needs_substitute source) _ scope after hsees
      problem hp
    obtain ⟨text, htext⟩ := hasText_of_passed _ a responses (hall a hm) source ht
    rw [he] at htext
    cases htext
  | teardown => cases hl

end Found

end Run

section Suite
variable (runner : Runner) (network : Network) (scope : Nat)

/-- The report of a scenario tells of its run in the world that those in front of it leave. -/
theorem report_at (before : List LoadedScenario) (loaded : LoadedScenario)
    (rest : List LoadedScenario) (world : World) :
    (Suite.runInOrder runner network (before ++ loaded :: rest) scope world).1[before.length]? =
      some { ((loaded.scenario.run runner scope).run network
        (behind runner network scope before world)).1 with path := loaded.path } := by
  induction before generalizing world with
  | nil =>
    rw [List.nil_append, runInOrder_cons]
    rfl
  | cons first before ih =>
    rw [List.cons_append, runInOrder_cons, behind, runInOrder_cons, List.length_cons,
      List.getElem?_cons_succ, ih]
    rfl

/-- Whatever became of the scenarios in front, what the check takes to be set behind them bounds
what is there. -/
theorem seesOnly_availableBehind (hc : ∀ fixture ∈ runner.registry, fixture.Confined)
    (before : List LoadedScenario) (seeded : List String) (world : World)
    (h : SeesOnly seeded scope world) :
    SeesOnly (availableBehind runner.registry seeded (before.map LoadedScenario.scenario)) scope
      (behind runner network scope before world) := by
  induction before generalizing seeded world with
  | nil => exact h
  | cons first before ih =>
    have hnext := seesOnly_behind runner network scope first.scenario world seeded hc h
    rw [behind, runInOrder_cons]
    exact ih _ _ hnext

/-- There are no false alarms. A suite is run in order where no keys but the seeded ones are seen.
The findings about each scenario stand in their place between those about the scenarios in front and
behind it, and each is made at a place of the scenario. If this is the plan, a step of setup, an
action or an assertion, then the report of the scenario is one of a failure, whatever servers answer
to this scenario and to all in front of it. Where the run comes to a step with a finding, the step
is not sent, and the phases end there. -/
theorem findings_are_failures (seeded : List String) (before : List LoadedScenario)
    (loaded : LoadedScenario) (rest : List LoadedScenario) (world : World)
    (hc : ∀ fixture ∈ runner.registry, fixture.Confined) (hs : scope < world.store.length)
    (hk : ∀ key, world.store.has scope key = true → key ∈ seeded) :
    let scenarios := before ++ loaded :: rest
    let available := availableBehind runner.registry seeded (before.map LoadedScenario.scenario)
    let known := knownBehind runner.registry available loaded.scenario
    let start := behind runner network scope before world
    findings runner.registry seeded (scenarios.map LoadedScenario.scenario) =
      findings runner.registry seeded (before.map LoadedScenario.scenario) ++
        (known.found.map (fun entry => ⟨loaded.scenario.name, entry.1, entry.2⟩) ++
          findings runner.registry known.available (rest.map LoadedScenario.scenario)) ∧
    (∀ entry, entry ∈ known.found ↔
      ∃ place, FoundAt runner.registry available loaded.scenario place entry) ∧
    (∀ place entry, FoundAt runner.registry available loaded.scenario place entry →
      place.lenient = false →
      ∃ report, (Suite.runInOrder runner network scenarios scope world).1[before.length]? =
        some report ∧ report.passed = false) ∧
    ∀ place entry step reached, FoundAt runner.registry available loaded.scenario place entry →
      ComesTo runner network scope loaded.scenario start place step reached →
      (∃ e, (runner.client.executeWith (loaded.scenario.retryPolicy runner.client) step.request
        scope).exec network reached = (.error e, reached)) ∧
      ∃ e, (loaded.scenario.runPhases runner scope).exec network start = (.error e, reached) := by
  intro scenarios available known start
  have hsees : SeesOnly available scope start :=
    seesOnly_availableBehind runner network scope hc before seeded world ⟨hs, hk⟩
  refine ⟨?_, ?_, ?_, ?_⟩
  · rw [List.map_append, findings_append]
    rfl
  · exact mem_found_behind runner.registry available loaded.scenario
  · intro place entry hf hl
    refine ⟨_, report_at runner network scope before loaded rest world, ?_⟩
    exact not_passed_of_found runner network scope loaded.scenario start available hc hsees place
      entry hf hl
  · intro place entry step reached hf hr
    exact stops_of_found runner network scope loaded.scenario start available hc hsees place entry
      hf step reached hr

def maker : Fixture := fixed "maker" [] [] [("seed", .str "s")]

def misspeltStep : RequestStep where
  request :=
    (RequestTemplate.new .get "/things/\x7b\x7bthing\x7d\x7d/\x7b\x7bthign\x7d\x7d").withHeader
      "X-Seed" "\x7b\x7bseed\x7d\x7d"

def misspelt : Scenario where
  name := "misspelt"
  fixtures := [⟨"maker", []⟩]
  actions := [misspeltStep]

/-- The second scenario of a suite, about which something is found, does not pass: its fixture is
built, and its action is not sent. -/
theorem findings_are_failures_misspelt :
    let runner : Runner := { plainRunner with registry := [maker] }
    let start := behind runner plainNetwork 0 [⟨none, kept⟩] plainWorld
    findings [maker] [] [kept, misspelt] = [⟨"misspelt", "action#1", neverSet "thign"⟩] ∧
    (∃ report, (Suite.runInOrder runner plainNetwork [⟨none, kept⟩, ⟨none, misspelt⟩] 0
      plainWorld).1[1]? = some report ∧ report.passed = false) ∧
    ∃ ready e, (buildFixtures runner misspelt (0 : Nat)).exec plainNetwork start = (.ok (), ready) ∧
      (misspelt.runPhases runner (0 : Nat)).exec plainNetwork start = (.error e, ready) := by
  intro runner start
  have hc : ∀ fixture ∈ runner.registry, fixture.Confined := by
    intro fixture hm
    rw [List.mem_singleton.mp hm]
    exact confined_fixed _ _ _ _
  have hk (key : String) (h : plainWorld.store.has 0 key = true) : key ∈ ([] : List String) := by
    simp [plainWorld, Store.has, Store.lookup, Table.get?] at h
  have hf : FoundAt [maker] ["thing"] misspelt (.action 0) ("action#1", neverSet "thign") :=
    .action 0 misspeltStep (neverSet "thign") rfl (by decide +kernel)
  have hb : ∃ ready, (buildFixtures runner misspelt (0 : Nat)).exec plainNetwork start =
      (.ok (), ready) := ⟨_, rfl⟩
  obtain ⟨ready, hb⟩ := hb
  have hr : ComesTo runner plainNetwork 0 misspelt start (.action 0) misspeltStep ready :=
    .action 0 misspeltStep ready ready ready [] rfl hb rfl rfl
  have h := findings_are_failures runner plainNetwork 0 [] [⟨none, kept⟩] ⟨none, misspelt⟩ []
    plainWorld hc (by decide) hk
  obtain ⟨e, he⟩ := (h.2.2.2 (.action 0) _ misspeltStep ready hf hr).2
  exact ⟨by decide +kernel, h.2.2.1 (.action 0) _ hf rfl, ready, e, hb, he⟩

end Suite

end Check
end ApiTrial
