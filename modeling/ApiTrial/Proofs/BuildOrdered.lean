import ApiTrial.Proofs.RecipeOutputs
import ApiTrial.Proofs.StoreHistory

/-! The outputs of standard fixtures are in order, so they hold each key once. A build may do what
it likes before it reads its outputs; these are put in order one by one. -/
namespace ApiTrial

namespace Trial
variable {α β : Type}

def Yields (Q : α → Prop) (trial : Trial α) : Prop :=
  ∀ network world a after, exec network trial world = (.ok a, after) → Q a

/-- What a trial gives is what its last part gives. -/
theorem yields_bind (Q : β → Prop) (trial : Trial α) (f : α → Trial β) (hf : ∀ a, Yields Q (f a)) :
    Yields Q (trial >>= f) := by
  intro network world b after h
  obtain ⟨a, middle, -, hb⟩ := exec_bind_ok network trial f world after b h
  exact hf a network middle b after hb

end Trial

namespace Fixture


/-- Outputs that are read by their keys have the keys in order. -/
theorem Context.yields_outputs (context : Context) (keys : List String) :
    Trial.Yields Table.Ordered (context.outputs keys) := by
  intro network world made after h
  rw [outputs, Trial.exec_readExcept, Prod.mk.injEq] at h
  replace h := h.1
  induction keys generalizing made with
  | nil =>
    cases h
    exact List.Pairwise.nil
  | cons key rest ih =>
    rw [outputsIn] at h
    cases hl : world.store.lookup context.scope key with
    | none =>
      rw [hl] at h
      cases h
    | some value =>
      rw [hl] at h
      cases hr : context.outputsIn world.store rest with
      | error e =>
        rw [hr] at h
        cases h
      | ok others =>
        rw [hr] at h
        cases h
        exact Table.ordered_insert key value others (ih others hr)

theorem yields_buildEvent (context : Context) (params : Params) :
    Trial.Yields Table.Ordered (Ticketing.buildEvent context params) := by
  apply Trial.yields_bind
  intro created
  apply Trial.yields_bind
  intro id
  apply Trial.yields_bind
  intro _
  apply Trial.yields_bind
  intro priced
  apply Trial.yields_bind
  intro type
  apply Trial.yields_bind
  intro _
  exact Trial.yields_bind _ _ _ fun _ => context.yields_outputs _

theorem yields_payCart (context : Context) :
    Trial.Yields Table.Ordered (Ticketing.payCart context) := by
  apply Trial.yields_bind
  intro filled
  apply Trial.yields_bind
  intro id
  apply Trial.yields_bind
  intro _
  apply Trial.yields_bind
  intro total
  apply Trial.yields_bind
  intro _
  apply Trial.yields_bind
  intro paid
  apply Trial.yields_bind
  intro order
  exact Trial.yields_bind _ _ _ fun _ => context.yields_outputs _

theorem yields_buildPaidCart (context : Context) (params : Params) :
    Trial.Yields Table.Ordered (Ticketing.buildPaidCart context params) := by
  have hpay := yields_payCart context
  have hcard : Trial.Yields Table.Ordered (do
      if !(← context.has "card_token") then context.set "card_token" (.str "tok_visa")
      Ticketing.payCart context) := by
    apply Trial.yields_bind
    intro known
    split
    · exact Trial.yields_bind _ _ _ fun _ => hpay
    · exact hpay
  rw [Ticketing.buildPaidCart]
  split
  · exact Trial.yields_bind _ _ _ fun _ => hcard
  · exact hcard

/-- The builds of standard fixtures end with reading their outputs, which puts these in order. -/
theorem yields_of_isStandard (registry : Registry) (hr : registry.IsStandard) (fixture : Fixture)
    (hf : fixture ∈ registry) (context : Context) (params : Params) :
    Trial.Yields Table.Ordered (fixture.build context params) := by
  rcases hr fixture hf with ht | ⟨recipe, rfl⟩
  · have hx : fixture = Ticketing.event ∨ fixture = Ticketing.paidCart := by
      simpa [Ticketing.fixtures] using ht
    rcases hx with rfl | rfl
    · exact yields_buildEvent context params
    · exact yields_buildPaidCart context params
  · apply Trial.yields_bind
    intro _
    exact Trial.yields_bind _ _ _ fun _ => context.yields_outputs recipe.outputs

/-- Every standard fixture builds outputs with their keys in order. -/
theorem ordered_of_buildOne (registry : Registry) (hr : registry.IsStandard) (client : Client)
    (caller : ScopeId) (fixture : Fixture) (hf : fixture ∈ registry) (call : Call)
    (inherited : List Outputs) :
    Trial.Yields Table.Ordered (buildOne client caller fixture call inherited) := by
  intro network world made after h
  rw [buildOne] at h
  obtain ⟨scope, _, _, h⟩ := Trial.exec_bind_ok _ _ _ _ _ _ h
  obtain ⟨missing, _, _, h⟩ := Trial.exec_bind_ok _ _ _ _ _ _ h
  cases missing with
  | some key => cases h
  | none =>
    obtain ⟨produced, middle, hbuild, hdeclared⟩ := Trial.exec_bind_ok _ _ _ _ _ _ h
    rw [Trial.exec_ofExcept, Prod.mk.injEq, declared] at hdeclared
    have hproduced := yields_of_isStandard registry hr fixture hf _ _ network _ produced _
      (Trial.exec_mapError_ok _ _ _ _ _ _ hbuild)
    replace hdeclared := hdeclared.1
    split at hdeclared
    · cases hdeclared
    · cases hdeclared
      exact List.Pairwise.filter _ hproduced

end Fixture

end ApiTrial
