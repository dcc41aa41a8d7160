import ApiTrial.Proofs.PlanOrder
import ApiTrial.Scenario.Check
import Mathlib.Data.List.Basic

/-! The walk of the check goes forward only: what was found before a point of it is still found
behind it, so a walk that finds nothing has found nothing at any point. Fixtures and the captures of
steps are what sets keys on the way. -/
namespace ApiTrial.Check
open Fixture

theorem prefix_foldl {α : Type} (f : Known → α → Known)
    (hf : ∀ known a, known.found <+: (f known a).found) (l : List α) (known : Known) :
    known.found <+: (l.foldl f known).found := by
  induction l generalizing known with
  | nil => exact List.prefix_refl _
  | cons a rest ih => exact (hf known a).trans (ih (f known a))

theorem prefix_use (known : Known) (location : String) (keys : Except Error (List String)) :
    known.found <+: (known.use location keys).found := by
  cases keys <;> exact List.prefix_append _ _

theorem prefix_step (known : Known) (phase : String) (step : RequestStep) (index : Nat) :
    known.found <+: (known.step phase step index).found :=
  prefix_use known _ _

theorem available_use (known : Known) (location : String) (keys? : Except Error (List String)) :
    (known.use location keys?).available = known.available := by
  cases keys? <;> rfl

/-- Behind a step, what it captures is taken to be set. -/
theorem available_step (known : Known) (phase : String) (step : RequestStep) (index : Nat) :
    (known.step phase step index).available = known.available ++ step.capture.keys := by
  rw [Known.step, Known.provide, available_use]

theorem prefix_steps (known : Known) (phase : String) (steps : List RequestStep) :
    known.found <+: (known.steps phase steps).found := by
  rw [Known.steps]
  apply prefix_foldl
  intro known step
  exact prefix_step known phase step.1 step.2

theorem prefix_assertion (known : Known) (a : Assertion) :
    known.found <+: (known.assertion a).found := by
  rw [Known.assertion]
  apply prefix_foldl
  intro known text
  exact prefix_use known a.name _

/-- The findings about a scenario begin with those about its fixtures. -/
theorem prefix_scenario (registry : Registry) (known : Known) (s : Scenario) :
    (known.fixtures registry s.fixtures).found <+: (known.scenario registry s).found := by
  rw [Known.scenario]
  have hset := prefix_steps (known.fixtures registry s.fixtures) "setup" s.setup
  have hact := prefix_steps ((known.fixtures registry s.fixtures).steps "setup" s.setup) "action"
    s.actions
  have hasserted := prefix_foldl Known.assertion prefix_assertion s.assertions
    (((known.fixtures registry s.fixtures).steps "setup" s.setup).steps "action" s.actions)
  exact ((hset.trans hact).trans hasserted).trans (prefix_steps _ "teardown" s.teardown)

theorem mem_available_fixture (registry : Registry) (known : Known) (call : Call) (key : String) :
    key ∈ (known.fixture registry call).available ↔
      key ∈ known.available ∨ registry.Declares call key := by
  rw [Known.fixture, Registry.Declares]
  cases registry.get? call.name with
  | none => simp
  | some fixture => simp [Known.provide, Known.require]

theorem mem_available_foldl (registry : Registry) (known : Known) (plan : List Call)
    (key : String) :
    key ∈ (plan.foldl (Known.fixture registry) known).available ↔
      key ∈ known.available ∨ registry.Announces plan key := by
  induction plan generalizing known with
  | nil => simp [Registry.Announces]
  | cons call rest ih =>
    rw [List.foldl_cons, ih, mem_available_fixture, or_assoc, Registry.Announces,
      Registry.Announces, List.exists_mem_cons_iff]

end ApiTrial.Check
