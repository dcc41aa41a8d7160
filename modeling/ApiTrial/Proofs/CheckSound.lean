import ApiTrial.Proofs.CheckHolds

/-! The check is sound. In a suite about which nothing is found, no step fails because of a
placeholder and no expected value is left open, as long as the server and the fixtures do their
part. Only what teardown captures has to be left out of the check: a run captures nothing there. -/
namespace ApiTrial

def RequestStep.bare (step : RequestStep) : RequestStep := { step with capture := [] }

def Scenario.bareTeardown (scenario : Scenario) : Scenario :=
  { scenario with teardown := scenario.teardown.map RequestStep.bare }

namespace Check
open Fixture Scenario

section Walks
variable (scope : Nat) (one : Nat → RequestStep → World → World → Prop)
  (next : Known → RequestStep → Nat → Known) (Good : RequestStep → World → Prop)

def Known.walk (known : Known) (index : Nat) (steps : List RequestStep) : Known :=
  (steps.zipIdx index).foldl (fun known step => next known step.1 step.2) known

/-- A phase about which nothing is found, walked through by the check and the run together. Every
step that is tried is tried where the check holds and finds nothing, and the phase goes well. -/
theorem walk_of_clean
    (hpre : ∀ known step index, known.found <+: (next known step index).found)
    (hdet : ∀ index step w m m', one index step w m → one index step w m' → m = m')
    (hstep : ∀ known index step w, Holds known scope w → (next known step index).found = [] →
      Good step w → ∃ m, one index step w m ∧ Holds (next known step index) scope m)
    (steps : List RequestStep) (index : Nat) (known : Known) (w : World)
    (hh : Holds known scope w) (hc : (known.walk next index steps).found = [])
    (hg : ∀ front step rest reached, steps = front ++ step :: rest →
      Walk one index front w reached → Good step reached) :
    (∃ after, Walk one index steps w after ∧ Holds (known.walk next index steps) scope after) ∧
    ∀ front step rest reached, steps = front ++ step :: rest → Walk one index front w reached →
      ∃ known' position, Holds known' scope reached ∧ (next known' step position).found = [] := by
  induction steps generalizing index known w with
  | nil =>
    refine ⟨⟨w, .nil index w, hh⟩, ?_⟩
    intro front step rest reached hs
    simp at hs
  | cons step rest ih =>
    have hwalk : known.walk next index (step :: rest) =
        (next known step index).walk next (index + 1) rest := by
      rw [Known.walk, List.zipIdx_cons, List.foldl_cons]
      rfl
    rw [hwalk] at hc ⊢
    have hclean : (next known step index).found = [] := by
      have hp := prefix_foldl (fun known (step : RequestStep × Nat) => next known step.1 step.2)
        (fun known step => hpre known step.1 step.2) (rest.zipIdx (index + 1))
        (next known step index)
      rwa [← Known.walk, hc, List.prefix_nil] at hp
    obtain ⟨m, hm, hhm⟩ :=
      hstep known index step w hh hclean (hg [] step rest w rfl (.nil index w))
    have hgm : ∀ front s rest' reached, rest = front ++ s :: rest' →
        Walk one (index + 1) front m reached → Good s reached := by
      intro front s rest' reached hr hw
      exact hg (step :: front) s rest' reached (by rw [hr]; rfl) (.cons _ _ _ _ _ _ hm hw)
    obtain ⟨⟨after, ha, hha⟩, htried⟩ := ih (index + 1) (next known step index) m hhm hc hgm
    refine ⟨⟨after, .cons _ _ _ _ _ _ hm ha, hha⟩, ?_⟩
    intro front s rest' reached hs hw
    cases hw with
    | nil =>
      obtain ⟨rfl, -⟩ := List.cons.inj hs
      exact ⟨known, index, hh, hclean⟩
    | cons _ c front' _ m' _ hc' hw' =>
      obtain ⟨rfl, hrest⟩ := List.cons.inj hs
      rw [hdet _ _ _ _ _ hc' hm] at hw'
      exact htried front' s rest' reached hrest hw'

end Walks

theorem covered_of_step (known : Known) (phase : String) (step : RequestStep) (index : Nat)
    (h : (known.step phase step index).found = []) : Covered known step.request.placeholders :=
  covered_of_use known _ _ h

section Phases
variable (client : Client) (retry : RetryPolicy) (network : Network) (scope : Nat) (known : Known)
  (index : Nat) (step : RequestStep) (w : World) (hh : Holds known scope w)
include hh

theorem runSetupStep_of_clean (hc : (known.step "setup" step index).found = [])
    (hg : AnswersWell client retry network scope step w)
    (hs : ∀ reason, answer client retry network scope step w ≠ .error (.invalidRequest reason))
    (hm : ∀ response, answer client retry network scope step w = .ok response →
      (expectation step).meets response.status = true) :
    ∃ m, (runSetupStep client retry scope index step).exec network w = (.ok (), m) ∧
      Holds (known.step "setup" step index) scope m := by
  obtain ⟨response, after, he, hst, hcap⟩ := exec_of_covered known scope w hh client retry network
    step (covered_of_step known "setup" step index hc) hg hs
  have hmeets := hm response (by rw [answer, he])
  refine ⟨_, ?_, holds_capture known scope w after "setup" index step response hh hst hcap⟩
  rw [runSetupStep, Trial.exec_bind_of_ok _ _ _ _ after response
    (by rw [Trial.exec_mapError, he]; rfl),
    Trial.exec_bind_of_ok _ _ _ _ after () (Trial.exec_tell _ _ _), if_pos hmeets]
  rfl

theorem runAction_of_clean (hc : (known.step "action" step index).found = [])
    (hg : AnswersWell client retry network scope step w)
    (hs : ∀ reason, answer client retry network scope step w ≠ .error (.invalidRequest reason)) :
    ∃ m, (∃ labelled, (runAction client retry scope index step).exec network w =
      (.ok labelled, m)) ∧ Holds (known.step "action" step index) scope m := by
  obtain ⟨response, after, he, hst, hcap⟩ := exec_of_covered known scope w hh client retry network
    step (covered_of_step known "action" step index hc) hg hs
  refine ⟨_, ⟨⟨step.label "action" index, response⟩, ?_⟩,
    holds_capture known scope w after "action" index step response hh hst hcap⟩
  rw [runAction, Trial.exec_bind_of_ok _ _ _ _ after response he,
    Trial.exec_bind_of_ok _ _ _ _ after () (Trial.exec_tell _ _ _)]
  rfl

/-- A step of teardown leaves all variables as they are. -/
theorem holds_teardownStep (m : World)
    (hm : ((runTeardownStep client scope index step).run network w).2 = m) :
    Holds (known.step "teardown" step.bare index) scope m := by
  have hstore : m.store = w.store := by
    rw [← hm]
    exact store_of_runTeardownStep client network scope index step w
  refine ⟨by rw [hstore]; exact hh.made, ?_⟩
  intro key hk
  rw [available_step] at hk
  rw [hstore]
  exact hh.seen key (by simpa [RequestStep.bare, Table.keys] using hk)

end Phases

section Run
variable (runner : Runner) (network : Network) (scope : Nat) (scenario : Scenario) (world : World)
  (known : Known)

/-- A setup without findings goes well, and behind it what is known holds. -/
theorem setup_of_clean (ready : World)
    (hb : (buildFixtures runner scenario scope).exec network world = (.ok (), ready))
    (hh : Holds known scope ready) (hc : (known.steps "setup" scenario.setup).found = [])
    (hw : scenario.GoesWell runner network scope world)
    (hs : scenario.Sendable runner network scope world) :
    (∃ begun, (runSetup runner.client (scenario.retryPolicy runner.client) scope 0
        scenario.setup).exec network ready = (.ok (), begun) ∧
      Holds (known.steps "setup" scenario.setup) scope begun) ∧
    ∀ step reached, scenario.TriesSetup runner network scope world step reached →
      ∃ known', Holds known' scope reached ∧ Covered known' step.request.placeholders := by
  have hwalk (front : List RequestStep) (after : World) :=
    runSetup_iff_walk runner.client (scenario.retryPolicy runner.client) network scope 0 front ready
      after
  obtain ⟨⟨begun, hbegun, hhb⟩, htried⟩ := walk_of_clean scope _
    (fun known step index => known.step "setup" step index)
    (fun step reached => scenario.TriesSetup runner network scope world step reached)
    (fun known step index => prefix_step known "setup" step index)
    (fun _ _ _ _ _ h h' => (Prod.mk.inj (h.symm.trans h')).2)
    (fun known index step w hh hclean ht => runSetupStep_of_clean runner.client
      (scenario.retryPolicy runner.client) network scope known index step w hh hclean
      (hw.setup step w ht).1 (fun reason => hs step w reason (Or.inl ht)) (hw.setup step w ht).2)
    scenario.setup 0 known ready hh hc
    (fun front step rest reached he hr => ⟨front, rest, ready, he, hb, (hwalk front reached).mpr hr⟩)
  refine ⟨⟨begun, (hwalk scenario.setup begun).mpr hbegun, hhb⟩, ?_⟩
  rintro step reached ⟨front, rest, ready', he, hb', hr⟩
  rw [hb] at hb'
  cases hb'
  obtain ⟨known', position, hh', hx⟩ :=
    htried front step rest reached he ((hwalk front reached).mp hr)
  exact ⟨known', hh', covered_of_step known' "setup" step position hx⟩

/-- Actions without findings go well, and behind them what is known holds. -/
theorem actions_of_clean (ready begun : World)
    (hb : (buildFixtures runner scenario scope).exec network world = (.ok (), ready))
    (hbegun : (runSetup runner.client (scenario.retryPolicy runner.client) scope 0
      scenario.setup).exec network ready = (.ok (), begun))
    (hh : Holds known scope begun) (hc : (known.steps "action" scenario.actions).found = [])
    (hw : scenario.GoesWell runner network scope world)
    (hs : scenario.Sendable runner network scope world) :
    (∃ responses after, (runActions runner.client (scenario.retryPolicy runner.client) scope 0
        scenario.actions).exec network begun = (.ok responses, after) ∧
      Holds (known.steps "action" scenario.actions) scope after) ∧
    ∀ step reached, scenario.TriesAction runner network scope world step reached →
      ∃ known', Holds known' scope reached ∧ Covered known' step.request.placeholders := by
  have hwalk (front : List RequestStep) (after : World) :=
    runActions_iff_walk runner.client (scenario.retryPolicy runner.client) network scope 0 front
      begun after
  obtain ⟨⟨after, hafter, hha⟩, htried⟩ := walk_of_clean scope _
    (fun known step index => known.step "action" step index)
    (fun step reached => scenario.TriesAction runner network scope world step reached)
    (fun known step index => prefix_step known "action" step index)
    (fun _ _ _ _ _ ⟨_, h⟩ ⟨_, h'⟩ => (Prod.mk.inj (h.symm.trans h')).2)
    (fun known index step w hh hclean ht => runAction_of_clean runner.client
      (scenario.retryPolicy runner.client) network scope known index step w hh hclean
      (hw.actions step w ht) fun reason => hs step w reason (Or.inr ht))
    scenario.actions 0 known begun hh hc
    (fun front step rest reached he hr => by
      obtain ⟨responses, hr⟩ := (hwalk front reached).mpr hr
      exact ⟨front, rest, ready, begun, responses, he, hb, hbegun, hr⟩)
  obtain ⟨responses, hresponses⟩ := (hwalk scenario.actions after).mpr hafter
  refine ⟨⟨responses, after, hresponses, hha⟩, ?_⟩
  rintro step reached ⟨front, rest, ready', begun', others, he, hb', hbegun', hr⟩
  rw [hb] at hb'
  cases hb'
  rw [hbegun] at hbegun'
  cases hbegun'
  obtain ⟨known', position, hh', hx⟩ :=
    htried front step rest reached he ((hwalk front reached).mp ⟨others, hr⟩)
  exact ⟨known', hh', covered_of_step known' "action" step position hx⟩

/-- A teardown without findings tries each step with all that the step needs. -/
theorem teardown_of_clean (hh : Holds known scope (scenario.torn runner network scope world))
    (hc : (known.steps "teardown" (scenario.teardown.map RequestStep.bare)).found = []) :
    Holds (known.steps "teardown" (scenario.teardown.map RequestStep.bare)) scope
      ((runTeardown runner.client scope 0 scenario.teardown).run network
        (scenario.torn runner network scope world)).2 ∧
    ∀ step reached, scenario.TriesTeardown runner network scope world step reached →
      ∃ known', Holds known' scope reached ∧ Covered known' step.request.placeholders := by
  have hsteps : known.steps "teardown" (scenario.teardown.map RequestStep.bare) =
      known.walk (fun known step index => known.step "teardown" step.bare index) 0
        scenario.teardown := by
    rw [Known.steps, Known.walk, List.zipIdx_map, List.foldl_map]
    rfl
  rw [hsteps] at hc ⊢
  have hwalk (front : List RequestStep) (after : World) :=
    runTeardown_iff_walk runner.client network scope 0 front
      (scenario.torn runner network scope world) after
  obtain ⟨⟨after, hafter, hha⟩, htried⟩ := walk_of_clean scope _
    (fun known step index => known.step "teardown" step.bare index)
    (fun _ _ => True)
    (fun known step index => prefix_step known "teardown" step.bare index)
    (fun _ _ _ _ _ h h' => h.symm.trans h')
    (fun known index step w hh _ _ => ⟨_, rfl,
      holds_teardownStep runner.client network scope known index step w hh _ rfl⟩)
    scenario.teardown 0 known _ hh hc (fun _ _ _ _ _ _ => True.intro)
  rw [(hwalk scenario.teardown after).mpr hafter]
  refine ⟨hha, ?_⟩
  rintro step reached ⟨front, rest, he, hr⟩
  obtain ⟨known', position, hh', hx⟩ :=
    htried front step rest reached he ((hwalk front reached).mp hr)
  exact ⟨known', hh', covered_of_step known' "teardown" step.bare position hx⟩

/-- A scenario about which nothing is found, run where the check holds: all is filled in, no phase
fails, and the check holds behind the run. -/
theorem run_of_clean (hf : ∀ fixture ∈ runner.registry, fixture.Confined)
    (hh : Holds known scope world)
    (hc : (known.scenario runner.registry scenario.bareTeardown).found = [])
    (hw : scenario.GoesWell runner network scope world)
    (hs : scenario.Sendable runner network scope world) :
    scenario.FillsIn runner network scope world ∧
    ((scenario.run runner scope).run network world).1.failure = none ∧
    Holds (known.scenario runner.registry scenario.bareTeardown) scope
      ((scenario.run runner scope).run network world).2 := by
  let k1 := known.fixtures runner.registry scenario.fixtures
  let k2 := k1.steps "setup" scenario.setup
  let k3 := k2.steps "action" scenario.actions
  let k4 := scenario.assertions.foldl Known.assertion k3
  have h4 : k4.found = [] := List.prefix_nil.mp (hc ▸ prefix_steps k4 "teardown" _)
  have h3 : k3.found = [] := List.prefix_nil.mp (h4 ▸ prefix_foldl _ prefix_assertion _ k3)
  have h2 : k2.found = [] := List.prefix_nil.mp (h3 ▸ prefix_steps k2 "action" _)
  obtain ⟨ready, hb⟩ := hw.built
  have hh1 : Holds k1 scope ready :=
    holds_fixtures runner network scope scenario hf known world ready hh hb
  obtain ⟨⟨begun, hbegun, hh2⟩, hsetup⟩ :=
    setup_of_clean runner network scope scenario world k1 ready hb hh1 h2 hw hs
  obtain ⟨⟨responses, after, hafter, hh3⟩, hactions⟩ :=
    actions_of_clean runner network scope scenario world k2 ready begun hb hbegun hh2 h3 hw hs
  have hphases := (runPhases_ok_iff runner network scope scenario world _ after).mpr
    ⟨ready, begun, responses, hb, hbegun, hafter, rfl⟩
  obtain ⟨⟨seen, hfailure⟩, hverdicts, htorn⟩ :=
    run_of_inTime runner network scope scenario world _ after hphases hw.inTime
  obtain ⟨hsame, htexts⟩ := covered_of_assertions k3 scenario.assertions h4
  have hh4 : Holds k4 scope (scenario.torn runner network scope world) := by
    refine ⟨htorn ▸ hh3.made, ?_⟩
    intro key hk
    rw [hsame] at hk
    exact htorn ▸ hh3.seen key hk
  obtain ⟨hh5, hteardown⟩ := teardown_of_clean runner network scope scenario world k4 hh4 hc
  obtain ⟨_, -, -, -, -, hbehind⟩ := run_eq runner network scope scenario world
  refine ⟨⟨?_, ?_, ?_, ?_⟩, hfailure, by rw [hbehind]; exact hh5⟩
  · intro step reached e ht ha
    obtain ⟨known', hh', hcov⟩ := hsetup step reached ht
    exact not_isSubstitution_of_covered known' scope reached hh' _ _ network step e hcov ha
  · intro step reached e ht ha
    obtain ⟨known', hh', hcov⟩ := hactions step reached ht
    exact not_isSubstitution_of_covered known' scope reached hh' _ _ network step e hcov ha
  · intro step reached e ht ha
    obtain ⟨known', hh', hcov⟩ := hteardown step reached ht
    exact not_isSubstitution_of_covered known' scope reached hh' _ _ network step e hcov ha
  · intro verdict hv e
    rw [hverdicts] at hv
    obtain ⟨a, ha, rfl⟩ := List.mem_map.mp hv
    apply verdict_resolves
    exact fun text ht => hasText_of_covered k3 scope after hh3 text (htexts a ha text ht)

end Run

section Suite
variable (runner : Runner) (network : Network) (scope : Nat)

def behind (before : List LoadedScenario) (world : World) : World :=
  (Suite.runInOrder runner network before scope world).2

theorem runInOrder_cons (loaded : LoadedScenario) (rest : List LoadedScenario) (world : World) :
    Suite.runInOrder runner network (loaded :: rest) scope world =
      ({ ((loaded.scenario.run runner scope).run network world).1 with path := loaded.path } ::
        (Suite.runInOrder runner network rest scope
          ((loaded.scenario.run runner scope).run network world).2).1,
        (Suite.runInOrder runner network rest scope
          ((loaded.scenario.run runner scope).run network world).2).2) := by
  rw [Suite.runInOrder, Suite.runLane, Routine.run_monad_bind, Routine.run_monad_bind]
  rfl

/-- A suite about which nothing is found as long as what teardown captures is left out. Wherever the
server and the fixtures do their part and no request is refused, every scenario is filled in, and
no phase of it fails. -/
theorem findings_sound (seeded : List String) (scenarios : List LoadedScenario) (world : World)
    (hf : ∀ fixture ∈ runner.registry, fixture.Confined) (hs : scope < world.store.length)
    (hk : ∀ key ∈ seeded, world.store.has scope key = true)
    (hc : findings runner.registry seeded
      (scenarios.map fun loaded => loaded.scenario.bareTeardown) = [])
    (hw : ∀ before loaded rest, scenarios = before ++ loaded :: rest →
      loaded.scenario.GoesWell runner network scope (behind runner network scope before world) ∧
      loaded.scenario.Sendable runner network scope (behind runner network scope before world)) :
    ∀ before loaded rest, scenarios = before ++ loaded :: rest →
      loaded.scenario.FillsIn runner network scope (behind runner network scope before world) ∧
      ((loaded.scenario.run runner scope).run network
        (behind runner network scope before world)).1.failure = none := by
  induction scenarios generalizing seeded world with
  | nil =>
    intro before loaded rest h
    simp at h
  | cons first others ih =>
    rw [List.map_cons, findings, List.append_eq_nil_iff, List.map_eq_nil_iff] at hc
    obtain ⟨hg, hsend⟩ := hw [] first others rfl
    obtain ⟨hfill, hfail, hh⟩ := run_of_clean runner network scope first.scenario world
      { available := seeded } hf ⟨hs, hk⟩ hc.1 hg hsend
    have hnext := ih _ ((first.scenario.run runner scope).run network world).2 hh.made hh.seen hc.2
      fun before loaded rest h => by
        have hx := hw (first :: before) loaded rest (by rw [h]; rfl)
        rwa [behind, runInOrder_cons] at hx
    intro before loaded rest h
    cases before with
    | nil =>
      obtain ⟨rfl, -⟩ := List.cons.inj h
      exact ⟨hfill, hfail⟩
    | cons c before =>
      obtain ⟨rfl, hrest⟩ := List.cons.inj h
      rw [behind, runInOrder_cons]
      exact hnext before loaded rest hrest

end Suite

section Plain

def plainRunner : Runner := { registry := [], client := .new "http://api.test" 30000 }

def plainNetwork : Network := fun _ _ => .answered 0 ⟨200, [], []⟩

def plainWorld : World := ⟨[⟨"root", none, []⟩], [], []⟩

def kept : Scenario where
  name := "kept"
  actions := [{ request := .new .post "/things", capture := [("thing", "status")] }]
  assertions := [{
    name := "kept"
    binding := some { key := "thing", equals := some (.str "\x7b\x7bthing\x7d\x7d") } }]
  teardown := [{ request := .new .delete "/things/\x7b\x7bthing\x7d\x7d" }]

/-- A suite of one scenario, which is filled in. -/
theorem findings_sound_kept :
    kept.FillsIn plainRunner plainNetwork 0 plainWorld ∧
    ((kept.run plainRunner (0 : Nat)).run plainNetwork plainWorld).1.failure = none := by
  have hnone : ((kept.run plainRunner 0).run plainNetwork plainWorld).1.failure = none := by
    decide +kernel
  have hwell : kept.GoesWell plainRunner plainNetwork 0 plainWorld := by
    apply goesWell_of_single _ _ _ _ _ _ rfl rfl rfl
    · refine ⟨by rintro reason ⟨⟩, ?_⟩
      intro response h capture hc
      cases h
      rw [List.mem_singleton.mp hc]
      rfl
    · intro phase limit
      rw [hnone]
      exact nofun
  have hsend : kept.Sendable plainRunner plainNetwork 0 plainWorld :=
    sendable_of_single _ _ _ _ _ _ rfl rfl rfl (by rintro reason ⟨⟩)
  have hstart : behind plainRunner plainNetwork 0 [] plainWorld = plainWorld := rfl
  have hw (before : List LoadedScenario) (loaded : LoadedScenario) (rest : List LoadedScenario)
      (h : [⟨none, kept⟩] = before ++ loaded :: rest) :
      loaded.scenario.GoesWell plainRunner plainNetwork 0
        (behind plainRunner plainNetwork 0 before plainWorld) ∧
      loaded.scenario.Sendable plainRunner plainNetwork 0
        (behind plainRunner plainNetwork 0 before plainWorld) := by
    cases before with
    | nil =>
      obtain ⟨rfl, -⟩ := List.cons.inj h
      rw [hstart]
      exact ⟨hwell, hsend⟩
    | cons c before => simp at h
  have h := findings_sound plainRunner plainNetwork 0 [] [⟨none, kept⟩] plainWorld
    (by simp [plainRunner]) (by decide) (by simp) rfl hw [] ⟨none, kept⟩ [] rfl
  dsimp only at h
  rwa [hstart] at h

def receipts : Scenario where
  name := "receipts"
  actions := [{ request := .new .get "/things" }]
  teardown := [{ request := .new .delete "/things/1", capture := [("receipt", "status")] },
    { request := .new .delete "/receipts/\x7b\x7breceipt\x7d\x7d" }]

def refused : Scenario where
  name := "refused"
  actions := [{
    request := (RequestTemplate.new .post "/things").withHeader "X-Note" "one\ntwo"
    capture := [("thing", "status")] }]
  teardown := [{ request := .new .delete "/things/\x7b\x7bthing\x7d\x7d" }]

/-- A scenario without a fault about which nothing is found. The server does its part, and yet a
step of teardown lacks a key. -/
structure Escapes (scenario : Scenario) (key : String) : Prop where
  faultless : scenario.fault? = none
  unnoticed : findings plainRunner.registry [] [scenario] = []
  goesWell : scenario.GoesWell plainRunner plainNetwork 0 plainWorld
  teardown : ∀ step reached, scenario.TriesTeardown plainRunner plainNetwork 0 plainWorld step
    reached → AnswersWell plainRunner.client plainRunner.client.retry plainNetwork 0 step reached
  lacks : ∃ step reached, scenario.TriesTeardown plainRunner plainNetwork 0 plainWorld step
    reached ∧ answer plainRunner.client plainRunner.client.retry plainNetwork 0 step reached =
      .error (.undefinedVariable key)

theorem escapes_receipts : Escapes receipts "receipt" where
  faultless := rfl
  unnoticed := rfl
  goesWell := by
    apply goesWell_of_single _ _ _ _ _ _ rfl rfl rfl
    · exact ⟨by rintro reason ⟨⟩, by simp⟩
    · rintro phase limit ⟨⟩
  teardown := by
    rintro step reached ⟨front, rest, he, hr⟩
    rcases front with _ | ⟨c, _ | ⟨d, more⟩⟩
    · obtain ⟨rfl, -⟩ := List.cons.inj he
      cases hr
      refine ⟨by rintro reason ⟨⟩, ?_⟩
      intro response h capture hc
      cases h
      rw [List.mem_singleton.mp hc]
      rfl
    · obtain ⟨rfl, hrest⟩ := List.cons.inj he
      obtain ⟨rfl, -⟩ := List.cons.inj hrest
      cases hr
      exact ⟨by rintro reason ⟨⟩, by rintro response ⟨⟩⟩
    · simp [receipts] at he
  lacks := ⟨_, _, ⟨receipts.teardown.take 1, [], rfl, rfl⟩, rfl⟩

theorem escapes_refused : Escapes refused "thing" where
  faultless := rfl
  unnoticed := rfl
  goesWell := by
    apply goesWell_of_single _ _ _ _ _ _ rfl rfl rfl
    · exact ⟨by rintro reason ⟨⟩, by rintro response ⟨⟩⟩
    · rintro phase limit ⟨⟩
  teardown := by
    rintro step reached ⟨front, rest, he, hr⟩
    rcases front with _ | ⟨c, more⟩
    · obtain ⟨rfl, -⟩ := List.cons.inj he
      cases hr
      exact ⟨by rintro reason ⟨⟩, by rintro response ⟨⟩⟩
    · simp [refused] at he
  lacks := ⟨_, _, ⟨[], [], rfl, rfl⟩, rfl⟩

/-- Two ways in which a key is taken to be set and is not: teardown captures nothing, and an action
that is refused captures nothing either. In the first no request is refused; in the second nothing
is found even if teardown is taken to capture nothing. -/
theorem findings_unsound :
    (Escapes receipts "receipt" ∧ receipts.Sendable plainRunner plainNetwork 0 plainWorld) ∧
    Escapes refused "thing" ∧ findings plainRunner.registry [] [refused.bareTeardown] = [] := by
  refine ⟨⟨escapes_receipts, ?_⟩, escapes_refused, rfl⟩
  exact sendable_of_single _ _ _ _ _ _ rfl rfl rfl (by rintro reason ⟨⟩)

end Plain

end Check
end ApiTrial
