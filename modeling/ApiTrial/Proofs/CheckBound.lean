import ApiTrial.Proofs.CheckPlaces
import ApiTrial.Proofs.RoutineReaches
import ApiTrial.Proofs.StepWalk
import ApiTrial.Proofs.StoreRemoval

/-! The check bounds every run. However a run of a scenario ends, and whatever it is answered, the
scope of the run sees no key that the check does not take to be set by then. Each phase adds the
keys of its captures at most, and fixtures add what the plan declares. -/
namespace ApiTrial

theorem Trial.keeps_tell (I : World → Prop) (E : Error → Prop) (event : Event) :
    Trial.Keeps I (fun _ => True) E (Trial.tell event) :=
  .note event _ (.done _ True.intro)

namespace Check
open Fixture Scenario

structure SeesOnly (keys : List String) (scope : Nat) (world : World) : Prop where
  made : scope < world.store.length
  within : ∀ key, world.store.has scope key = true → key ∈ keys

section Changes
variable (keys : List String) (scope : Nat) (world : World) (h : SeesOnly keys scope world)
include h

theorem seesOnly_mono (more : List String) (hm : ∀ key ∈ keys, key ∈ more) :
    SeesOnly more scope world :=
  ⟨h.made, fun key hk => hm key (h.within key hk)⟩

theorem seesOnly_of_store_eq (after : World) (hs : after.store = world.store) :
    SeesOnly keys scope after :=
  ⟨hs ▸ h.made, hs ▸ h.within⟩

theorem seesOnly_of_growsTo (after : World) (hg : world.GrowsTo after) :
    SeesOnly keys scope after := by
  refine ⟨Nat.lt_of_lt_of_le h.made hg.scopes.length_le, ?_⟩
  intro key hk
  rw [Store.has, world.lookup_of_growsTo after hg scope key h.made] at hk
  exact h.within key hk

/-- An operation that touches none but the given keys lets no other key be seen. -/
theorem seesOnly_apply (op : Store.Op) (ht : ∀ id key, op.Touches id key → key ∈ keys) :
    SeesOnly keys scope (world.mapStore op.apply) := by
  have hsame (key : String) (hn : key ∉ keys) :
      (op.apply world.store).lookup scope key = world.store.lookup scope key := by
    rcases Store.apply_cases world.store op with ⟨new, he, -⟩ | ⟨id, f, he, hf⟩ | he
    · rw [he]
      exact Store.lookup_append [new] world.store scope key h.made
    · rw [he]
      exact Store.lookup_modify_of_same f world.store id scope key fun slots =>
        hf key slots fun hx => hn (ht id key hx)
    · rw [he]
  have hmade : scope < (op.apply world.store).length := by
    rcases Store.apply_cases world.store op with ⟨new, he, -⟩ | ⟨id, f, he, -⟩ | he
    · rw [he]
      exact Nat.lt_succ_of_lt h.made
    · rw [he, Store.length_modify]
      exact h.made
    · rw [he]
      exact h.made
  refine ⟨hmade, ?_⟩
  intro key hk
  by_contra hn
  rw [World.mapStore, Store.has, hsame key hn] at hk
  exact hn (h.within key hk)

end Changes

/-- Captures under known keys show nothing beyond these keys. -/
theorem seesOnly_captureAll (keys : List String) (scope : Nat) (response : Response)
    (captures : List (String × String)) (world : World) (h : SeesOnly keys scope world)
    (hc : ∀ capture ∈ captures, capture.1 ∈ keys) :
    SeesOnly keys scope (world.mapStore (captureAll scope response captures)) := by
  induction captures generalizing world with
  | nil => exact h
  | cons capture rest ih =>
    have hk := hc capture List.mem_cons_self
    have hrest : ∀ c ∈ rest, c.1 ∈ keys := fun c hm => hc c (List.mem_cons_of_mem _ hm)
    cases hv : response.capture? capture.2 with
    | some value =>
      have hset := seesOnly_apply keys scope world h (.set scope capture.1 value) <| by
        rintro id key ⟨-, rfl⟩
        exact hk
      have hx := ih _ hset hrest
      simp only [World.mapStore, captureAll, List.foldl_cons, hv] at hx ⊢
      exact hx
    | none =>
      have hunset := seesOnly_apply keys scope world h (.remove scope capture.1) <| by
        rintro id key ⟨-, rfl⟩
        exact hk
      have hx := ih _ hunset hrest
      simp only [World.mapStore, captureAll, List.foldl_cons, hv] at hx ⊢
      exact hx

section Phases
variable (keys : List String) (scope : Nat) (client : Client) (retry : RetryPolicy)

theorem keeps_capture (step : RequestStep) (response : Response)
    (hc : ∀ key ∈ step.capture.keys, key ∈ keys) :
    Trial.Keeps (SeesOnly keys scope) (fun _ => True) (fun _ => True)
      (capture scope step response) := by
  apply Trial.keeps_modify _ _ _ _ True.intro
  intro w hw
  exact seesOnly_captureAll keys scope response step.capture w hw fun capture hm =>
    hc capture.1 (List.mem_map_of_mem hm)

theorem keeps_request (template : RequestTemplate) :
    Trial.Keeps (SeesOnly keys scope) (fun _ => True) (fun _ => True)
      (client.executeWith retry template scope) :=
  Client.keeps_executeWith _ _ (fun _ w hw => seesOnly_of_store_eq keys scope w hw _ rfl)
    (fun _ => True.intro) client retry template scope

/-- Setup shows no key beyond those known, wherever it ends. -/
theorem keeps_runSetup (steps : List RequestStep) (index : Nat)
    (hc : ∀ step ∈ steps, ∀ key ∈ step.capture.keys, key ∈ keys) :
    Trial.Keeps (SeesOnly keys scope) (fun _ => True) (fun _ => True)
      (runSetup client retry scope index steps) := by
  induction steps generalizing index with
  | nil => exact Trial.keeps_pure _ _ _ () True.intro
  | cons step rest ih =>
    apply Trial.keeps_bind _ _ (fun _ => True)
    · apply Trial.keeps_bind _ _ (fun _ => True)
      · have hrequest := keeps_request keys scope client retry step.request
        exact Trial.keeps_mapError _ _ _ (fun _ => True) _ _ hrequest fun _ _ => True.intro
      · intro response _
        apply Trial.keeps_bind _ _ (fun _ => True) _ _ _ (Trial.keeps_tell _ _ _)
        intro _ _
        dsimp only
        split
        · exact keeps_capture keys scope step response (hc step List.mem_cons_self)
        · exact Trial.keeps_throw _ _ _ _ True.intro
    · exact fun _ _ => ih (index + 1) fun s hs => hc s (List.mem_cons_of_mem _ hs)

/-- Actions show no key beyond those known, wherever they end. -/
theorem keeps_runActions (steps : List RequestStep) (index : Nat)
    (hc : ∀ step ∈ steps, ∀ key ∈ step.capture.keys, key ∈ keys) :
    Trial.Keeps (SeesOnly keys scope) (fun _ => True) (fun _ => True)
      (runActions client retry scope index steps) := by
  induction steps generalizing index with
  | nil => exact Trial.keeps_pure _ _ _ [] True.intro
  | cons step rest ih =>
    apply Trial.keeps_bind _ _ (fun _ => True)
    · apply Trial.keeps_bind _ _ (fun _ => True) _ _ _ (keeps_request keys scope client retry _)
      intro response _
      apply Trial.keeps_bind _ _ (fun _ => True) _ _ _ (Trial.keeps_tell _ _ _)
      intro _ _
      apply Trial.keeps_bind _ _ (fun _ => True) _ _ _
        (keeps_capture keys scope step response (hc step List.mem_cons_self))
      exact fun _ _ => Trial.keeps_pure _ _ _ _ True.intro
    · intro labelled _
      apply Trial.keeps_bind _ _ (fun _ => True) _ _ _
        (ih (index + 1) fun s hs => hc s (List.mem_cons_of_mem _ hs))
      exact fun _ _ => Trial.keeps_pure _ _ _ _ True.intro

end Phases

section Fixtures
variable (registry : Registry) (network : Network) (scope : Nat) (known : Known) (world : World)
  (h : SeesOnly known.available scope world)
include h

/-- What is built adds the keys that its calls declare. -/
theorem seesOnly_commit (reached : World) (built : Built) (hg : world.GrowsTo reached)
    (hf : built.Faithful registry) :
    SeesOnly (built.calls.foldl (Known.fixture registry) known).available scope
      (commit scope built reached) := by
  refine ⟨lt_commit scope world reached built h.made hg, ?_⟩
  intro key hk
  rw [has_commit_iff registry scope world reached built h.made hg hf key] at hk
  exact (mem_available_foldl registry known built.calls key).mpr
    (hk.symm.imp_left (h.within key))

variable (hc : ∀ fixture ∈ registry, fixture.Confined)
include hc

/-- Wherever a build of calls has come to, only announced keys are seen. -/
theorem seesOnly_of_reaches_buildAll (client : Client) (calls : List Call) (reached : World)
    (hr : (buildAll registry client scope calls).Reaches network world reached) :
    SeesOnly (known.fixtures registry calls).available scope reached := by
  have hmore : ∀ key ∈ known.available, key ∈ (known.fixtures registry calls).available := by
    intro key hk
    rw [Known.fixtures]
    cases registry.plan calls with
    | error e => exact hk
    | ok plan => exact (mem_available_foldl registry known plan key).mpr (Or.inl hk)
  have hsame (w : World) (hg : world.GrowsTo w) :=
    seesOnly_mono _ scope w (seesOnly_of_growsTo _ scope world h w hg) _ hmore
  rw [buildAll] at hr
  rcases Trial.reaches_bind _ _ _ _ _ hr with hr | ⟨plan, w, hp, hr⟩
  · rw [Trial.eq_of_reaches_ofExcept _ _ _ _ hr]
    exact hsame world world.growsTo_refl
  obtain ⟨hplan, hw⟩ := Prod.mk.inj hp
  subst hw
  rcases Trial.reaches_bind _ _ _ _ _ hr with hr | ⟨built, middle, hb, hr⟩
  · -- A build that is under way, or has failed, has only added scopes.
    have hkeeps := keeps_buildRest world registry client scope hc plan []
    exact hsame reached
      (Trial.keeps_reaches _ _ _ network _ world reached hkeeps world.growsTo_refl hr)
  · have hgrown := growsTo_of_buildRest registry client scope network hc plan [] _ middle _ hb
    have hcalls : built.calls = plan :=
      calls_of_buildRest registry client scope network plan [] built _ middle hb
    have hcommit := seesOnly_commit registry scope known _ h middle built hgrown
      (faithful_of_buildRest registry client scope network plan [] built _ middle
        (fun _ he => absurd he List.not_mem_nil) hb)
    have hwritten : SeesOnly (known.fixtures registry calls).available scope
        (commit scope built middle) := by
      rw [Known.fixtures, hplan]
      rwa [hcalls] at hcommit
    rcases Trial.reaches_bind _ _ _ _ _ hr with hr | ⟨_, last, hm, hr⟩
    · rcases Trial.eq_or_eq_of_reaches_modify _ _ _ _ hr with rfl | rfl
      · exact hsame reached hgrown
      · exact hwritten
    · obtain rfl : commit scope built middle = last := (Prod.mk.inj hm).2
      rw [Trial.eq_of_reaches_ofExcept _ _ _ _ hr]
      exact hwritten

end Fixtures

section Run
variable (runner : Runner) (network : Network) (scope : Nat) (s : Scenario) (world : World)
  (seeded : List String) (hc : ∀ fixture ∈ runner.registry, fixture.Confined)
  (h : SeesOnly seeded scope world)
include hc h

/-- Wherever the fixtures of a scenario have come to, only announced and seeded keys are seen. -/
theorem seesOnly_of_reaches_fixtures (reached : World)
    (hr : (buildFixtures runner s scope).Reaches network world reached) :
    SeesOnly (knownBuilt runner.registry seeded s).available scope reached := by
  rw [buildFixtures] at hr
  split at hr
  · rename_i he
    obtain rfl : reached = world := Trial.eq_of_reaches_ofExcept network (.ok ()) world reached hr
    rw [knownBuilt, List.isEmpty_iff.mp he]
    exact h
  · have hbuilt := seesOnly_of_reaches_buildAll runner.registry network scope
      { available := seeded } world h hc
      { runner.client with retry := s.retryPolicy runner.client } s.fixtures
    rcases Trial.reaches_bind _ _ _ _ _ hr with hr | ⟨outputs, middle, hb, hr⟩
    · exact hbuilt reached hr
    · obtain rfl : reached = middle :=
        Trial.eq_of_reaches_ofExcept network (.ok ()) middle reached hr
      exact hbuilt reached (Trial.reaches_of_exec network _ world reached _ hb)

/-- Behind the fixtures and some steps of setup, what these capture is there at most. -/
theorem seesOnly_of_reaches_setup (ready reached : World) (steps : List RequestStep)
    (hb : (buildFixtures runner s scope).exec network world = (.ok (), ready))
    (hr : (runSetup runner.client (s.retryPolicy runner.client) scope 0 steps).Reaches network ready
      reached) :
    SeesOnly ((knownBuilt runner.registry seeded s).steps "setup" steps).available scope
      reached := by
  have hready := seesOnly_of_reaches_fixtures runner network scope s world seeded hc h ready
    (Trial.reaches_of_exec network _ world ready _ hb)
  have hmem := mem_available_steps (knownBuilt runner.registry seeded s) "setup" steps
  have hmore := seesOnly_mono _ scope ready hready _ fun key hk => (hmem key).mpr (Or.inl hk)
  have hkeeps := keeps_runSetup _ scope runner.client (s.retryPolicy runner.client) steps 0
    fun step hs key hk => (hmem key).mpr (Or.inr ⟨step, hs, hk⟩)
  exact Trial.keeps_reaches _ _ _ network _ ready reached hkeeps hmore hr

theorem seesOnly_of_reaches_actions (ready begun reached : World) (steps : List RequestStep)
    (hb : (buildFixtures runner s scope).exec network world = (.ok (), ready))
    (hs : (runSetup runner.client (s.retryPolicy runner.client) scope 0 s.setup).exec network
      ready = (.ok (), begun))
    (hr : (runActions runner.client (s.retryPolicy runner.client) scope 0 steps).Reaches network
      begun reached) :
    SeesOnly ((knownSetUp runner.registry seeded s).steps "action" steps).available scope
      reached := by
  have hbegun := seesOnly_of_reaches_setup runner network scope s world seeded hc h ready begun
    s.setup hb (Trial.reaches_of_exec network _ ready begun _ hs)
  have hmem := mem_available_steps (knownSetUp runner.registry seeded s) "action" steps
  have hmore := seesOnly_mono _ scope begun hbegun _ fun key hk => (hmem key).mpr (Or.inl hk)
  have hkeeps := keeps_runActions _ scope runner.client (s.retryPolicy runner.client) steps 0
    fun step hm key hk => (hmem key).mpr (Or.inr ⟨step, hm, hk⟩)
  exact Trial.keeps_reaches _ _ _ network _ begun reached hkeeps hmore hr

/-- Wherever the phases of a run are left, the keys that the check has by the end of the actions
bound what is there. -/
theorem seesOnly_of_reaches_phases (reached : World)
    (hr : (s.runPhases runner scope).Reaches network world reached) :
    SeesOnly (knownActed runner.registry seeded s).available scope reached := by
  have hacted := mem_available_steps (knownSetUp runner.registry seeded s) "action" s.actions
  have hset := mem_available_steps (knownBuilt runner.registry seeded s) "setup" s.setup
  have hbuilt (w : World) (hw : SeesOnly (knownBuilt runner.registry seeded s).available scope w) :
      SeesOnly (knownActed runner.registry seeded s).available scope w :=
    seesOnly_mono _ scope w hw _ fun key hk =>
      (hacted key).mpr (Or.inl ((hset key).mpr (Or.inl hk)))
  have hsetUp (w : World) (hw : SeesOnly (knownSetUp runner.registry seeded s).available scope w) :
      SeesOnly (knownActed runner.registry seeded s).available scope w :=
    seesOnly_mono _ scope w hw _ fun key hk => (hacted key).mpr (Or.inl hk)
  have hfixtures := seesOnly_of_reaches_fixtures runner network scope s world seeded hc h
  have hsetup := seesOnly_of_reaches_setup runner network scope s world seeded hc h
  have hactions := seesOnly_of_reaches_actions runner network scope s world seeded hc h
  rw [runPhases] at hr
  rcases Trial.reaches_bind _ _ _ _ _ hr with hr | ⟨_, w, ht, hr⟩
  · rw [Trial.eq_of_reaches_tell _ _ _ _ hr]
    exact hbuilt world (hfixtures world (.start _ world))
  obtain rfl : world = w := (Prod.mk.inj ht).2
  rcases Trial.reaches_bind _ _ _ _ _ hr with hr | ⟨_, ready, hb, hr⟩
  · exact hbuilt reached (hfixtures reached hr)
  rcases Trial.reaches_bind _ _ _ _ _ hr with hr | ⟨_, begun, hs, hr⟩
  · exact hsetUp reached (hsetup ready reached s.setup hb hr)
  rcases Trial.reaches_bind _ _ _ _ _ hr with hr | ⟨_, w, ht, hr⟩
  · rw [Trial.eq_of_reaches_tell _ _ _ _ hr]
    exact hsetUp begun (hsetup ready begun s.setup hb (Trial.reaches_of_exec _ _ _ _ _ hs))
  obtain rfl : begun = w := (Prod.mk.inj ht).2
  rcases Trial.reaches_bind _ _ _ _ _ hr with hr | ⟨responses, acted, ha, hr⟩
  · exact hactions ready begun reached s.actions hb hs hr
  have hdone := hactions ready begun acted s.actions hb hs (Trial.reaches_of_exec _ _ _ _ _ ha)
  rcases Trial.reaches_bind _ _ _ _ _ hr with hr | ⟨_, w, ht, hr⟩
  · rw [Trial.eq_of_reaches_tell _ _ _ _ hr]
    exact hdone
  obtain rfl : acted = w := (Prod.mk.inj ht).2
  rw [Trial.eq_of_reaches_read _ _ _ _ hr]
  exact hdone

/-- However a scenario ends, the keys that the check has behind it bound what is there. -/
theorem seesOnly_behind :
    SeesOnly (knownBehind runner.registry seeded s).available scope
      ((s.run runner scope).run network world).2 := by
  have htorn := seesOnly_of_reaches_phases runner network scope s world seeded hc h _
    (Routine.reaches_within network (s.runPhases runner scope).run (s.timeLimit runner) world)
  obtain ⟨_, -, -, -, -, hbehind⟩ := run_eq runner network scope s world
  have hstore := store_of_runTeardown runner.client network scope s.teardown 0
    (s.torn runner network scope world)
  rw [hbehind]
  refine seesOnly_of_store_eq _ scope (s.torn runner network scope world) ?_ _ hstore
  refine seesOnly_mono _ scope _ htorn _ ?_
  intro key hk
  have hasserted := (mem_found_assertions (knownActed runner.registry seeded s) s.assertions).1
  refine (mem_available_steps _ "teardown" s.teardown key).mpr (Or.inl ?_)
  rw [← hasserted] at hk
  exact hk

end Run

end Check
end ApiTrial
