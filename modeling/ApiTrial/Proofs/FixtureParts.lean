import ApiTrial.Fixture.Plan
import ApiTrial.Fixture.Recipe
import ApiTrial.Fixture.Ticketing

/-! Builds are put together from the few things that can be done with a context. What holds of each
of these and of every sequence of parts holds of the builds of all recipes and of the fixtures of
the ticketing server. -/
namespace ApiTrial
namespace Fixture

structure Context.Closed (context : Context) (P : (α : Type) → Trial α → Prop) : Prop where
  pure : ∀ (α : Type) (a : α), P α (pure a)
  bind : ∀ (α β : Type) (trial : Trial α) (f : α → Trial β), P α trial → (∀ a, P β (f a)) →
    P β (trial >>= f)
  set : ∀ key value, P Unit (context.set key value)
  has : ∀ key, P Bool (context.has key)
  request : ∀ stage template expect, P Response (context.request stage template expect)
  extract : ∀ stage response source,
    P Json (Trial.ofExcept (context.extract stage response source))
  outputs : ∀ keys, P Outputs (context.outputs keys)

end Fixture

namespace Recipe
variable (context : Fixture.Context) (P : (α : Type) → Trial α → Prop) (hc : context.Closed P)
include hc

theorem closed_setDefaults (params : Fixture.Params) (defaults : List (String × Json)) :
    P Unit (setDefaults context params defaults) := by
  induction defaults with
  | nil => exact hc.pure _ ()
  | cons entry rest ih =>
    rw [setDefaults]
    split
    · exact hc.bind _ _ _ _ (hc.set _ _) fun _ => ih
    · exact ih

theorem closed_extractAll (stage : String) (response : Response)
    (sources : List (String × String)) : P Unit (extractAll context stage response sources) := by
  induction sources with
  | nil => exact hc.pure _ ()
  | cons entry rest ih =>
    apply hc.bind _ _ _ _ (hc.extract _ _ _)
    intro value
    exact hc.bind _ _ _ _ (hc.set _ _) fun _ => ih

theorem closed_runSteps (steps : List Step) : P Unit (runSteps context steps) := by
  induction steps with
  | nil => exact hc.pure _ ()
  | cons step rest ih =>
    apply hc.bind _ _ _ _ (hc.request _ _ _)
    intro response
    exact hc.bind _ _ _ _ (closed_extractAll context P hc _ _ _) fun _ => ih

theorem closed_build (recipe : Recipe) (params : Fixture.Params) :
    P Fixture.Outputs (recipe.build context params) := by
  apply hc.bind _ _ _ _ (closed_setDefaults context P hc params _)
  intro _
  apply hc.bind _ _ _ _ (closed_runSteps context P hc _)
  exact fun _ => hc.outputs _

end Recipe

namespace Ticketing

def payCart (context : Fixture.Context) : Trial Fixture.Outputs := do
  let response ← context.request "fill cart" cartRequest .success
  context.set "cart_id" (← Trial.ofExcept (context.extract "fill cart" response "/id"))
  context.set "cart_total_in_cents"
    (← Trial.ofExcept (context.extract "fill cart" response "/total_in_cents"))
  let response ← context.request "checkout" checkoutRequest .success
  context.set "order_id" (← Trial.ofExcept (context.extract "checkout" response "/id"))
  context.outputs ["event_id", "ticket_type_id", "cart_id", "order_id"]

variable (context : Fixture.Context) (P : (α : Type) → Trial α → Prop) (hc : context.Closed P)
include hc

/-- Whatever holds of the parts of builds holds of building an event. -/
theorem closed_buildEvent (params : Fixture.Params) :
    P Fixture.Outputs (buildEvent context params) := by
  apply hc.bind _ _ _ _ (hc.request _ _ _)
  intro created
  apply hc.bind _ _ _ _ (hc.extract _ _ _)
  intro id
  apply hc.bind _ _ _ _ (hc.set _ _)
  intro _
  apply hc.bind _ _ _ _ (hc.request _ _ _)
  intro priced
  apply hc.bind _ _ _ _ (hc.extract _ _ _)
  intro type
  apply hc.bind _ _ _ _ (hc.set _ _)
  intro _
  apply hc.bind _ _ _ _ (hc.request _ _ _)
  exact fun _ => hc.outputs _

/-- Whatever holds of the parts of builds holds of paying a cart. -/
theorem closed_payCart : P Fixture.Outputs (payCart context) := by
  apply hc.bind _ _ _ _ (hc.request _ _ _)
  intro filled
  apply hc.bind _ _ _ _ (hc.extract _ _ _)
  intro id
  apply hc.bind _ _ _ _ (hc.set _ _)
  intro _
  apply hc.bind _ _ _ _ (hc.extract _ _ _)
  intro total
  apply hc.bind _ _ _ _ (hc.set _ _)
  intro _
  apply hc.bind _ _ _ _ (hc.request _ _ _)
  intro paid
  apply hc.bind _ _ _ _ (hc.extract _ _ _)
  intro order
  apply hc.bind _ _ _ _ (hc.set _ _)
  exact fun _ => hc.outputs _

theorem closed_buildPaidCart (params : Fixture.Params) :
    P Fixture.Outputs (buildPaidCart context params) := by
  have hpay := closed_payCart context P hc
  have hcard : P Fixture.Outputs (do
      if !(← context.has "card_token") then context.set "card_token" (.str "tok_visa")
      payCart context) := by
    apply hc.bind _ _ _ _ (hc.has _)
    intro known
    split
    · exact hc.bind _ _ _ _ (hc.set _ _) fun _ => hpay
    · exact hpay
  rw [buildPaidCart]
  split
  · exact hc.bind _ _ _ _ (hc.set _ _) fun _ => hcard
  · exact hcard

end Ticketing

namespace Registry

/-- All fixtures of a registry are fixtures of the ticketing server or given by recipes. -/
def IsStandard (registry : Registry) : Prop :=
  ∀ fixture ∈ registry, fixture ∈ Ticketing.fixtures ∨ ∃ recipe : Recipe, fixture = recipe.fixture

/-- The builds of standard fixtures have every property that their parts have. -/
theorem closed_of_isStandard (registry : Registry) (h : registry.IsStandard) (fixture : Fixture)
    (hf : fixture ∈ registry) (context : Fixture.Context) (params : Fixture.Params)
    (P : (α : Type) → Trial α → Prop) (hc : context.Closed P) :
    P Fixture.Outputs (fixture.build context params) := by
  rcases h fixture hf with ht | ⟨recipe, rfl⟩
  · have hx : fixture = Ticketing.event ∨ fixture = Ticketing.paidCart := by
      simpa [Ticketing.fixtures] using ht
    rcases hx with rfl | rfl
    · exact Ticketing.closed_buildEvent context P hc params
    · exact Ticketing.closed_buildPaidCart context P hc params
  · exact Recipe.closed_build context P hc recipe params

end Registry

end ApiTrial
