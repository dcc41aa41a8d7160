import ApiTrial.Fixture.Build
import ApiTrial.Proofs.FixtureParts
import ApiTrial.Proofs.PlanOrder
import ApiTrial.Proofs.RequestResolved
import ApiTrial.Proofs.StoreLookup

/-! Builds work in scopes of their own. Until a plan is written down, a run adds scopes and requests
to the world and touches nothing that was there: `World.GrowsTo`. Recipes and the fixtures of the
ticketing server keep to this and fail in their own name, and so do the builds made of them. -/
namespace ApiTrial

structure World.GrowsTo (start world : World) : Prop where
  scopes : start.store <:+ world.store
  owners : world.owners = start.owners
  sent : start.sent <+: world.sent

theorem World.growsTo_refl (world : World) : world.GrowsTo world :=
  ⟨List.suffix_refl _, rfl, List.prefix_refl _⟩

theorem World.growsTo_trans (start world after : World) (h : start.GrowsTo world)
    (ha : world.GrowsTo after) : start.GrowsTo after :=
  ⟨h.scopes.trans ha.scopes, ha.owners.trans h.owners, h.sent.trans ha.sent⟩

/-- What a scope of the start sees does not change as the world grows. -/
theorem World.lookup_of_growsTo (start world : World) (h : start.GrowsTo world) (id : Nat)
    (key : String) (hid : id < start.store.length) :
    world.store.lookup id key = start.store.lookup id key :=
  Store.lookup_of_suffix start.store world.store h.scopes id key hid

theorem World.growsTo_sending (start : World) (request : WireRequest) (world : World)
    (h : start.GrowsTo world) : start.GrowsTo (world.sending request) :=
  ⟨h.scopes, h.owners, h.sent.trans (List.prefix_append _ _)⟩

theorem World.growsTo_mapStore (start world : World) (change : Store → Store)
    (h : start.GrowsTo world) (hc : start.store <:+ change world.store) :
    start.GrowsTo (world.mapStore change) :=
  ⟨hc, h.owners, h.sent⟩

namespace Fixture.Context
variable {α β : Type}

def Stays (context : Context) (start : World) (trial : Trial α) : Prop :=
  Trial.Keeps start.GrowsTo (fun _ => True) (fun e => ∃ reason, e = context.failure reason) trial

variable (context : Context) (start : World)

theorem stays_pure (a : α) : context.Stays start (pure a : Trial α) :=
  Trial.keeps_pure _ _ _ a True.intro

theorem stays_bind (trial : Trial α) (f : α → Trial β) (h : context.Stays start trial)
    (hf : ∀ a, context.Stays start (f a)) : context.Stays start (trial >>= f) :=
  Trial.keeps_bind _ _ (fun _ => True) _ trial f h fun a _ => hf a

theorem stays_set (hs : start.store.length ≤ context.scope) (key : String) (value : Json) :
    context.Stays start (context.set key value) := by
  apply Trial.keeps_modify _ _ _ _ True.intro
  intro w hw
  exact World.growsTo_mapStore start w _ hw
    (Store.suffix_modify start.store w.store hw.scopes _ context.scope hs)

theorem stays_has (key : String) : context.Stays start (context.has key) :=
  Trial.keeps_read _ _ _ _ fun _ _ => True.intro

theorem stays_request (stage : String) (template : RequestTemplate) (expect : StatusClass) :
    context.Stays start (context.request stage template expect) := by
  apply stays_bind
  · apply Trial.keeps_mapError _ _ _ (fun _ => True)
    · exact Client.keeps_executeWith _ _ (World.growsTo_sending start) (fun _ => True.intro) _ _ _ _
    · exact fun e _ => ⟨_, rfl⟩
  · intro response
    split
    · exact stays_pure context start response
    · exact Trial.keeps_throw _ _ _ _ ⟨_, rfl⟩

theorem stays_extract (stage source : String) (response : Response) :
    context.Stays start (Trial.ofExcept (context.extract stage response source)) := by
  apply Trial.keeps_ofExcept
  rw [extract]
  cases response.capture? source with
  | some value => exact True.intro
  | none => exact ⟨_, rfl⟩

theorem stays_outputs (keys : List String) : context.Stays start (context.outputs keys) := by
  apply Trial.keeps_readExcept
  intro w _
  induction keys with
  | nil => exact True.intro
  | cons key rest ih =>
    rw [outputsIn]
    cases w.store.lookup context.scope key with
    | none => exact ⟨_, rfl⟩
    | some value =>
      cases hr : context.outputsIn w.store rest with
      | ok outputs => exact True.intro
      | error e =>
        rw [hr] at ih
        exact ih

/-- All that a build can do with its context stays, so what is put together from it does. -/
theorem closed_stays (hs : start.store.length ≤ context.scope) :
    context.Closed fun _ trial => context.Stays start trial where
  pure := fun _ => stays_pure context start
  bind := fun _ _ => stays_bind context start
  set := stays_set context start hs
  has := stays_has context start
  request := stays_request context start
  extract := fun stage response source => stays_extract context start stage source response
  outputs := stays_outputs context start

end Fixture.Context

namespace Fixture

def Confined (fixture : Fixture) : Prop :=
  ∀ (start : World) (context : Context) (params : Params),
    start.store.length ≤ context.scope →
    Trial.Keeps start.GrowsTo (fun _ => True) (fun _ => True) (fixture.build context params)

def Contained (fixture : Fixture) : Prop :=
  ∀ (start : World) (context : Context) (params : Params),
    start.store.length ≤ context.scope → context.Stays start (fixture.build context params)

theorem confined_of_contained (fixture : Fixture) (h : fixture.Contained) : fixture.Confined :=
  fun start context params hs =>
    Trial.keeps_mono _ _ _ _ _ _ (h start context params hs) (fun _ h => h) fun _ _ => True.intro

end Fixture

theorem Recipe.contained_fixture (recipe : Recipe) : recipe.fixture.Contained :=
  fun start context params hs =>
    recipe.closed_build context _ (context.closed_stays start hs) params

theorem Registry.contained_of_isStandard (registry : Registry) (h : registry.IsStandard) :
    ∀ fixture ∈ registry, fixture.Contained :=
  fun fixture hf start context params hs =>
    registry.closed_of_isStandard h fixture hf context params _ (context.closed_stays start hs)

namespace Fixture

theorem suffix_foldl_merge (older store : Store) (hs : older <:+ store) (scope : Nat)
    (hl : older.length ≤ scope) (inherited : List Outputs) :
    older <:+ inherited.foldl (fun store outputs => Store.merge store scope outputs) store := by
  induction inherited generalizing store with
  | nil => exact hs
  | cons outputs rest ih => exact ih _ (Store.suffix_modify older store hs _ scope hl)

/-- A build is given a new scope, on top of all that there are. -/
theorem growsTo_openScope (start world : World) (fixture : Fixture) (call : Call)
    (inherited : List Outputs) (caller : ScopeId) (h : start.GrowsTo world) :
    start.store.length ≤ (fixture.openScope call inherited caller world).1 ∧
      start.GrowsTo (fixture.openScope call inherited caller world).2 := by
  have hl : start.store.length ≤ world.store.length := h.scopes.length_le
  have hi : start.store <:+ (world.store.isolate caller (scopeName fixture.name)).1 :=
    h.scopes.trans (Store.suffix_isolate _ _ _)
  have hm := suffix_foldl_merge start.store _ hi world.store.length hl inherited
  exact ⟨hl, Store.suffix_modify start.store _ hm _ _ hl, h.owners, h.sent⟩

/-- What a build keeps, from what the body of its fixture keeps. -/
theorem keeps_buildOne (start : World) (E F : Error → Prop) (client : Client) (caller : ScopeId)
    (fixture : Fixture) (call : Call) (inherited : List Outputs)
    (hb : ∀ scope, start.store.length ≤ scope → Trial.Keeps start.GrowsTo (fun _ => True) E
      (fixture.build ⟨fixture.name, client, scope⟩ call.params))
    (he : ∀ e, E e → F (e.asFixtureFailure fixture.name))
    (hf : ∀ reason, F (.fixtureFailed fixture.name reason)) :
    Trial.Keeps start.GrowsTo (fun _ => True) F
      (buildOne client caller fixture call inherited) := by
  apply Trial.keeps_bind _ _ (fun scope => start.store.length ≤ scope)
  · apply Trial.keeps_update
    exact fun w hw => growsTo_openScope start w fixture call inherited caller hw
  intro scope hs
  apply Trial.keeps_bind _ _ (fun _ => True)
  · exact Trial.keeps_read _ _ _ _ fun _ _ => True.intro
  rintro (_ | key) -
  · apply Trial.keeps_bind _ _ (fun _ => True)
    · exact Trial.keeps_mapError _ _ _ E _ _ (hb scope hs) he
    · intro produced _
      apply Trial.keeps_ofExcept
      rw [declared]
      split
      · exact hf _
      · exact True.intro
  · exact Trial.keeps_throw _ _ _ _ (hf _)

theorem asFixtureFailure_eq (name : String) (e : Error) :
    ∃ failed reason, e.asFixtureFailure name = .fixtureFailed failed reason := by
  cases e <;> exact ⟨_, _, rfl⟩

theorem keeps_buildOne_of_confined (start : World) (client : Client) (caller : ScopeId)
    (fixture : Fixture) (call : Call) (inherited : List Outputs) (h : fixture.Confined) :
    Trial.Keeps start.GrowsTo (fun _ => True)
      (fun e => ∃ name reason, e = .fixtureFailed name reason)
      (buildOne client caller fixture call inherited) :=
  keeps_buildOne start (fun _ => True) _ client caller fixture call inherited
    (fun scope hs => h start ⟨fixture.name, client, scope⟩ call.params hs)
    (fun e _ => asFixtureFailure_eq fixture.name e)
    fun _ => ⟨_, _, rfl⟩

theorem keeps_buildOne_of_contained (start : World) (client : Client) (caller : ScopeId)
    (fixture : Fixture) (call : Call) (inherited : List Outputs) (h : fixture.Contained) :
    Trial.Keeps start.GrowsTo (fun _ => True)
      (fun e => ∃ reason, e = .fixtureFailed fixture.name reason)
      (buildOne client caller fixture call inherited) := by
  apply keeps_buildOne start (fun e => ∃ reason, e = .fixtureFailed fixture.name reason) _ client
    caller fixture call inherited
    (fun scope hs => h start ⟨fixture.name, client, scope⟩ call.params hs) _ fun _ => ⟨_, rfl⟩
  rintro e ⟨reason, rfl⟩
  exact ⟨reason, rfl⟩

theorem mem_of_get? (registry : Registry) (name : String) (fixture : Fixture)
    (h : registry.get? name = some fixture) : fixture ∈ registry :=
  List.mem_of_find?_eq_some h

/-- A plan of confined fixtures is built without touching what was there. -/
theorem keeps_buildRest (start : World) (registry : Registry) (client : Client)
    (caller : ScopeId) (hc : ∀ fixture ∈ registry, fixture.Confined) (plan : List Call)
    (built : Built) :
    Trial.Keeps start.GrowsTo (fun _ => True) (fun _ => True)
      (buildRest registry client caller built plan) := by
  induction plan generalizing built with
  | nil => exact Trial.keeps_pure _ _ _ _ True.intro
  | cons call rest ih =>
    rw [buildRest]
    cases hg : registry.get call.name with
    | error e => exact .done _ True.intro
    | ok fixture =>
      have hf : fixture.Confined :=
        hc fixture (mem_of_get? registry _ _ (Registry.get?_of_get registry _ _ hg))
      -- The fixture that the registry gives is carried along, since what follows depends on it.
      have hget : Trial.Keeps start.GrowsTo (fun f => f = fixture) (fun _ => True)
          (Trial.ofExcept (.ok fixture)) := Trial.keeps_pure _ _ _ fixture rfl
      apply Trial.keeps_bind _ _ _ _ _ _ hget
      rintro _ rfl
      apply Trial.keeps_bind _ _ (fun _ => True) _ _ _ (Trial.keeps_ofExcept _ _ _ _ (Trial.either_true _))
      intro inherited _
      apply Trial.keeps_bind _ _ (fun _ => True)
      · exact Trial.keeps_mono _ _ _ _ _ _
          (keeps_buildOne_of_confined start client caller _ call inherited hf) (fun _ h => h)
          fun _ _ => True.intro
      · exact fun outputs _ => ih _

theorem growsTo_of_buildOne (client : Client) (caller : ScopeId) (network : Network)
    (fixture : Fixture) (call : Call) (inherited : List Outputs) (world after : World)
    (hc : fixture.Confined) (outcome : Except Error Outputs)
    (h : (buildOne client caller fixture call inherited).exec network world = (outcome, after)) :
    world.GrowsTo after := by
  have hk := keeps_buildOne_of_confined world client caller fixture call inherited hc
  have hx := (Trial.exec_of_keeps _ _ _ network _ world hk world.growsTo_refl).2
  rwa [h] at hx

theorem growsTo_of_buildRest (registry : Registry) (client : Client) (caller : ScopeId)
    (network : Network) (hc : ∀ fixture ∈ registry, fixture.Confined) (plan : List Call)
    (built : Built) (world after : World) (outcome : Except Error Built)
    (h : (buildRest registry client caller built plan).exec network world = (outcome, after)) :
    world.GrowsTo after := by
  have hk := keeps_buildRest world registry client caller hc plan built
  have hx := (Trial.exec_of_keeps _ _ _ network _ world hk world.growsTo_refl).2
  rwa [h] at hx

end Fixture
end ApiTrial
