import ApiTrial.Proofs.CheckPlaces
import ApiTrial.Proofs.RequestKeys
import ApiTrial.Proofs.StepWalk
import ApiTrial.Proofs.VerdictResolved

/-! The check and a run in step. Whatever the check takes to be set is seen from the scope of the
run, and every phase keeps this as long as the server and the fixtures do their part. A step about
which nothing is found can then be filled in where it is tried. -/
namespace ApiTrial.Check
open Fixture Scenario

structure Holds (known : Known) (scope : Nat) (world : World) : Prop where
  made : scope < world.store.length
  seen : ∀ key ∈ known.available, world.store.has scope key = true

def Covered (known : Known) (keys? : Except Error (List String)) : Prop :=
  ∃ keys, keys? = .ok keys ∧ ∀ key ∈ keys, key ∈ known.available

theorem covered_of_problems (known : Known) (keys? : Except Error (List String))
    (h : ∀ problem, problem ∉ problems known.available keys?) : Covered known keys? := by
  cases keys? with
  | error e => exact absurd (List.mem_singleton_self e.message) (h e.message)
  | ok keys =>
    refine ⟨keys, rfl, ?_⟩
    have hnone := List.eq_nil_iff_forall_not_mem.mpr h
    simpa [problems] using hnone

theorem covered_of_use (known : Known) (location : String) (keys? : Except Error (List String))
    (h : (known.use location keys?).found = []) : Covered known keys? := by
  apply covered_of_problems
  intro problem hp
  have hm := (mem_found_use known location keys? _).mpr (Or.inr ⟨problem, hp, rfl⟩)
  rw [h] at hm
  cases hm

/-- Assertions set nothing, and all texts of those about which nothing is found are covered. -/
theorem covered_of_assertions (known : Known) (assertions : List Assertion)
    (h : (assertions.foldl Known.assertion known).found = []) :
    (assertions.foldl Known.assertion known).available = known.available ∧
    ∀ a ∈ assertions, ∀ source ∈ texts a, Covered known (RequestTemplate.keysOf source) := by
  obtain ⟨hsame, hfound⟩ := mem_found_assertions known assertions
  refine ⟨hsame, ?_⟩
  intro a ha source hs
  apply covered_of_problems
  intro problem hp
  have hm := (hfound _).mpr (Or.inr ⟨a, ha, source, hs, problem, hp, rfl⟩)
  rw [h] at hm
  cases hm

section Steps
variable (known : Known) (scope : Nat) (world : World) (hh : Holds known scope world)
include hh

theorem hasText_of_covered (source : String)
    (hc : Covered known (RequestTemplate.keysOf source)) :
    HasText (world.store.lookup scope) source := by
  obtain ⟨keys, hk, hx⟩ := hc
  exact (Template.needs_substitute source).fills _ keys hk fun key hm => hh.seen key (hx key hm)

/-- A step about which nothing is found fails for want of an answer, or is refused, but not because
of a placeholder. -/
theorem answer_error_of_covered (client : Client) (retry : RetryPolicy) (network : Network)
    (step : RequestStep) (e : Error) (hc : Covered known step.request.placeholders)
    (h : answer client retry network scope step world = .error e) :
    (∃ reason, e = .transport reason) ∨ ∃ reason, e = .invalidRequest reason := by
  obtain ⟨keys, hk, hx⟩ := hc
  obtain ⟨resolved, hr⟩ := step.request.needs_resolve.fills (world.store.lookup scope) keys hk
    fun key hm => hh.seen key (hx key hm)
  exact Client.executeWith_error_of_resolved network client retry step.request scope world resolved
    e hr h

theorem not_isSubstitution_of_covered (client : Client) (retry : RetryPolicy) (network : Network)
    (step : RequestStep) (e : Error) (hc : Covered known step.request.placeholders)
    (h : answer client retry network scope step world = .error e) : e.isSubstitution = false := by
  rcases answer_error_of_covered known scope world hh client retry network step e hc h with
    ⟨_, rfl⟩ | ⟨_, rfl⟩ <;> rfl

/-- A step that is covered is answered, if the connection holds and the request can be sent. -/
theorem exec_of_covered (client : Client) (retry : RetryPolicy) (network : Network)
    (step : RequestStep) (hc : Covered known step.request.placeholders)
    (hg : AnswersWell client retry network scope step world)
    (hs : ∀ reason, answer client retry network scope step world ≠ .error (.invalidRequest reason)) :
    ∃ response after,
      (client.executeWith retry step.request scope).exec network world = (.ok response, after) ∧
      after.store = world.store ∧
      ∀ capture ∈ step.capture, (response.capture? capture.2).isSome = true := by
  cases ha : answer client retry network scope step world with
  | error e =>
    rcases answer_error_of_covered known scope world hh client retry network step e hc ha with
      ⟨reason, rfl⟩ | ⟨reason, rfl⟩
    · exact absurd ha (hg.connected reason)
    · exact absurd ha (hs reason)
  | ok response =>
    refine ⟨response, _, Prod.ext ha rfl, ?_, hg.complete response ha⟩
    exact Client.store_of_executeWith network client retry step.request scope world

end Steps

/-- Behind captures from a response that has all their sources, just their keys are set as well. -/
theorem has_captureAll (scope : Nat) (response : Response) (captures : List (String × String))
    (store : Store) (hs : scope < store.length)
    (hc : ∀ capture ∈ captures, (response.capture? capture.2).isSome = true) :
    (captureAll scope response captures store).length = store.length ∧
    ∀ key, (captureAll scope response captures store).has scope key = true ↔
      key ∈ captures.map (·.1) ∨ store.has scope key = true := by
  induction captures generalizing store with
  | nil => simp [captureAll]
  | cons capture rest ih =>
    obtain ⟨value, hv⟩ := Option.isSome_iff_exists.mp (hc capture List.mem_cons_self)
    have hx : captureAll scope response (capture :: rest) store =
        captureAll scope response rest (store.set scope capture.1 value) := by
      rw [captureAll, List.foldl_cons, hv]
      rfl
    obtain ⟨hl, hk⟩ := ih (store.set scope capture.1 value) (by rwa [Store.length_set])
      fun c hm => hc c (List.mem_cons_of_mem _ hm)
    rw [hx, hl, Store.length_set]
    refine ⟨rfl, ?_⟩
    intro key
    rw [hk, Store.has_set_iff store scope capture.1 key value hs, List.map_cons, List.mem_cons]
    constructor
    · rintro (h | h | h)
      · exact Or.inl (Or.inr h)
      · exact Or.inl (Or.inl h)
      · exact Or.inr h
    · rintro ((h | h) | h)
      · exact Or.inr (Or.inl h)
      · exact Or.inl h
      · exact Or.inr (Or.inr h)

/-- What a step captures is set for the check and for the run. -/
theorem holds_capture (known : Known) (scope : Nat) (world after : World) (phase : String)
    (index : Nat) (step : RequestStep) (response : Response) (hh : Holds known scope world)
    (hs : after.store = world.store)
    (hc : ∀ capture ∈ step.capture, (response.capture? capture.2).isSome = true) :
    Holds (known.step phase step index) scope
      (after.mapStore (captureAll scope response step.capture)) := by
  have hm : scope < after.store.length := by
    rw [hs]
    exact hh.made
  obtain ⟨hl, hk⟩ := has_captureAll scope response step.capture after.store hm hc
  refine ⟨?_, ?_⟩
  · show scope < (captureAll scope response step.capture after.store).length
    rw [hl]
    exact hm
  · intro key hkey
    have hkey' : key ∈ known.available ++ step.capture.keys := by
      rw [available_step] at hkey
      exact hkey
    apply (hk key).mpr
    rcases List.mem_append.mp hkey' with h | h
    · rw [hs]
      exact Or.inr (hh.seen key h)
    · exact Or.inl h

/-- What a plan declares is set for the check, and for the run once it is written down. -/
theorem holds_commit (registry : Registry) (known : Known) (scope : Nat) (world reached : World)
    (built : Built) (hh : Holds known scope world) (hg : world.GrowsTo reached)
    (hf : built.Faithful registry) :
    Holds (built.calls.foldl (Known.fixture registry) known) scope (commit scope built reached) := by
  refine ⟨lt_commit scope world reached built hh.made hg, ?_⟩
  intro key hk
  rw [has_commit_iff registry scope world reached built hh.made hg hf key]
  exact ((mem_available_foldl registry known built.calls key).mp hk).symm.imp_right (hh.seen key)

/-- Behind a build that goes well, all that is known to be there is there. -/
theorem holds_buildAll (registry : Registry) (client : Client) (scope : Nat) (network : Network)
    (hc : ∀ fixture ∈ registry, fixture.Confined) (calls : List Call) (known : Known)
    (world after : World) (outputs : List Outputs) (hh : Holds known scope world)
    (h : (buildAll registry client scope calls).exec network world = (.ok outputs, after)) :
    Holds (known.fixtures registry calls) scope after := by
  rcases buildAll_cases registry client scope network calls world after _ h with
    ⟨_, _, he, _⟩ | ⟨_, _, _, he, _⟩ | ⟨plan, built, reached, _, hp, _, hb, _, rfl⟩
  · cases he
  · cases he
  · have hcalls : built.calls = plan :=
      calls_of_buildRest registry client scope network plan [] built world reached hb
    have hfaith : built.Faithful registry :=
      faithful_of_buildRest registry client scope network plan [] built world reached nofun hb
    have hgrown : world.GrowsTo reached :=
      growsTo_of_buildRest registry client scope network hc plan [] world reached _ hb
    have hx := holds_commit registry known scope world reached built hh hgrown hfaith
    rw [Known.fixtures, hp]
    rwa [hcalls] at hx

/-- A scenario without fixtures sets nothing here, neither for the check nor for the run. -/
theorem holds_fixtures (runner : Runner) (network : Network) (scope : Nat) (scenario : Scenario)
    (hc : ∀ fixture ∈ runner.registry, fixture.Confined) (known : Known) (world ready : World)
    (hh : Holds known scope world)
    (h : (buildFixtures runner scenario scope).exec network world = (.ok (), ready)) :
    Holds (known.fixtures runner.registry scenario.fixtures) scope ready := by
  rw [buildFixtures] at h
  split at h
  · rename_i he
    rw [List.isEmpty_iff.mp he]
    cases h
    exact hh
  · obtain ⟨outputs, after, hb, hr⟩ := Trial.exec_bind_ok _ _ _ _ _ _ h
    cases hr
    exact holds_buildAll runner.registry _ scope network hc scenario.fixtures known world _ outputs
      hh hb

end ApiTrial.Check
