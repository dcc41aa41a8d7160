import ApiTrial.Proofs.BuildConfined
import ApiTrial.Proofs.RoutineGuarantees
import ApiTrial.Proofs.StepManner
import ApiTrial.Proofs.StoreRemoval
import ApiTrial.Scenario.Suite

/-! Where a lane writes. Captures, removals and fixture commits of a scenario go to the scope of its
lane, and a build goes to a scope opened for it, so every other scope made before stays as it is:
`Store.Spares`. What is seen from a scope changes only if one of the scopes that it reads does. -/
namespace ApiTrial
namespace Store

structure Spares (top : Nat) (own : Option ScopeId) (before after : Store) : Prop where
  grows : before.length ≤ after.length
  kept : ∀ id < top, own ≠ some id → after.scope? id = before.scope? id
  parents : ∀ id < top,
    (after.scope? id).map Scope.parent = (before.scope? id).map Scope.parent

variable (top : Nat) (own : Option ScopeId)

theorem spares_refl (store : Store) : Spares top own store store :=
  ⟨Nat.le_refl _, fun _ _ _ => rfl, fun _ _ => rfl⟩

theorem spares_trans (before between after : Store) (h : Spares top own before between)
    (h' : Spares top own between after) : Spares top own before after where
  grows := h.grows.trans h'.grows
  kept := fun id hid ho => (h'.kept id hid ho).trans (h.kept id hid ho)
  parents := fun id hid => (h'.parents id hid).trans (h.parents id hid)

/-- What a step with no scope of its own may do, any step may do. -/
theorem spares_of_none (before after : Store) (h : Spares top none before after) :
    Spares top own before after where
  grows := h.grows
  kept := fun id hid _ => h.kept id hid (Option.some_ne_none id).symm
  parents := h.parents

/-- A change of slots spares all other scopes, and all scopes below the mark if it is above. -/
theorem spares_modify (f : Table (Option Json) → Table (Option Json)) (store : Store) (id : ScopeId)
    (hid : own = some id ∨ top ≤ id) :
    Spares top own store (store.modify (fun s => { s with slots := f s.slots }) id) where
  grows := (length_modify _ store id).ge
  kept := by
    intro other hother ho
    have hne : other ≠ id := by
      rintro rfl
      rcases hid with hid | hid
      · exact ho hid
      · omega
    exact scope?_modify_of_ne store _ id other hne
  parents := by
    intro other _
    rw [scope?_modify, Option.map_map]
    congr 1
    funext s
    rw [Function.comp_apply]
    split <;> rfl

theorem spares_set (store : Store) (id : ScopeId) (key : String) (value : Json)
    (hid : own = some id ∨ top ≤ id) : Spares top own store (store.set id key value) :=
  spares_modify top own (fun slots => slots.insert key (some value)) store id hid

theorem spares_remove (store : Store) (id : ScopeId) (key : String)
    (hid : own = some id ∨ top ≤ id) : Spares top own store (store.remove id key) := by
  rw [remove]
  split
  · exact spares_modify top own (fun slots => slots.insert key none) store id hid
  · exact spares_modify top own (fun slots => slots.erase key) store id hid

theorem spares_merge (store : Store) (id : ScopeId) (values : List (String × Json))
    (hid : own = some id ∨ top ≤ id) : Spares top own store (store.merge id values) :=
  spares_modify top own
    (fun slots => slots.insertAll (values.map fun entry : String × Json => (entry.1, some entry.2)))
    store id hid

theorem spares_cons (store : Store) (s : Scope) (htop : top ≤ store.length) :
    Spares top own store (s :: store) where
  grows := Nat.le_succ _
  kept := fun id hid _ => scope?_cons_of_lt store s id (by omega)
  parents := fun id hid => by rw [scope?_cons_of_lt store s id (by omega)]

/-- A scope made before the only one that is written to sees what it saw. -/
theorem lookup_of_spares (before after : Store) (scope : Nat)
    (h : Spares top (some scope) before after) (id : Nat) (key : String) (hid : id < top)
    (hs : id < scope) : after.lookup id key = before.lookup id key := by
  -- A scope reads its parent only if that was made before, so the induction is on the number.
  induction id using Nat.strong_induction_on with
  | _ id ih =>
    have hne : some scope ≠ some id := fun he => by cases he; omega
    rw [lookup_eq after, lookup_eq before, h.kept id hid hne]
    congr 1
    funext s
    congr 2
    funext parent
    split
    · rename_i hlt
      exact ih parent hlt (by omega) (by omega)
    · rfl

/-- So does another scope whose parent was made before it. -/
theorem lookup_of_spares_beside (before after : Store) (scope parent : Nat)
    (h : Spares top (some scope) before after) (id : Nat) (key : String) (hid : id < top)
    (hs : id ≠ scope) (hp : (before.scope? id).map Scope.parent = some (some parent))
    (hparent : parent < scope) (hlt : parent < id) :
    after.lookup id key = before.lookup id key := by
  have hne : some scope ≠ some id := fun he => hs (Option.some.inj he).symm
  have hsame := lookup_of_spares top before after scope h parent key (by omega) hparent
  rw [lookup_eq after, lookup_eq before, h.kept id hid hne]
  obtain ⟨s, hs, hx⟩ := Option.map_eq_some_iff.mp hp
  rw [hs, Option.bind_some, Option.bind_some, hx, Option.bind_some, Option.bind_some, if_pos hlt,
    if_pos hlt, hsame]

end Store

namespace Routine
variable {α β : Type}

def Spares (top : Nat) (own : Option ScopeId) (Q : α → Prop) (routine : Routine α) : Prop :=
  routine.Guarantees (fun w => top ≤ w.store.length)
    (fun w w' => Store.Spares top own w.store w'.store) Q

end Routine

namespace Trial
variable {α β : Type}

def Spares (top : Nat) (own : Option ScopeId) (Q : α → Prop) (trial : Trial α) : Prop :=
  Guarantees (fun w => top ≤ w.store.length) (fun w w' => Store.Spares top own w.store w'.store) Q
    trial

variable (top : Nat) (own : Option ScopeId)

theorem spares_of_none (Q : α → Prop) (trial : Trial α) (h : trial.Spares top none Q) :
    trial.Spares top own Q :=
  Routine.guarantees_mono _ _ _ _ _ _ h (fun _ hw => hw)
    fun w w' hw => Store.spares_of_none top own w.store w'.store hw

theorem spares_bind (trial : Trial α) (f : α → Trial β)
    (h : trial.Spares top own fun _ => True) (hf : ∀ a, (f a).Spares top own fun _ => True) :
    (trial >>= f).Spares top own fun _ => True :=
  guarantees_bind _ _ (fun _ => True) _ trial f h fun a _ => hf a

theorem spares_read (view : World → α) : (Trial.read view).Spares top own fun _ => True :=
  guarantees_read _ _ (fun w _ => Store.spares_refl top own w.store) view

theorem spares_tell (event : Event) : (Trial.tell event).Spares top own fun _ => True :=
  guarantees_tell _ _ (fun w _ => Store.spares_refl top own w.store) event

theorem spares_store (change : Store → Store)
    (h : ∀ store : Store, store.Spares top own (change store)) :
    (Trial.modify (World.mapStore change)).Spares top own fun _ => True :=
  guarantees_modify _ _ _ fun w _ => h w.store

end Trial

namespace Client
variable (top : Nat) (own : Option ScopeId) (client : Client)

theorem spares_attempt (request : ResolvedRequest) :
    (client.attempt request).Spares top own fun _ => True := by
  rw [Trial.Spares, Trial.Guarantees, attempt, ExceptT.run_mk]
  cases request.wire (client.urlOf request.path) with
  | error e => exact .done _ True.intro
  | ok wire =>
    refine .send wire _ _ (fun w _ => Store.spares_refl top own w.store) ?_
    intro seen
    cases seen.answer? with
    | none => exact .done _ True.intro
    | some answer => exact .done _ True.intro

/-- Sending a request, however often, writes to no scope. -/
theorem spares_attempts (request : ResolvedRequest) (backoff retries : Nat) :
    (client.attempts request backoff retries).Spares top own fun _ => True := by
  induction retries with
  | zero =>
    rw [attempts]
    exact client.spares_attempt top own request
  | succ retries ih =>
    rw [Trial.Spares, Trial.Guarantees, attempts, ExceptT.run_mk]
    refine Routine.guarantees_bind _ _ _ _ _ _ (client.spares_attempt top own request) ?_
    intro outcome _
    cases outcome with
    | ok response => exact .done _ True.intro
    | error e =>
      dsimp only
      split
      · exact .pause _ _ (fun w _ => Store.spares_refl top own w.store) ih
      · exact .done _ True.intro

theorem spares_executeWith (retry : RetryPolicy) (template : RequestTemplate) (scope : ScopeId) :
    (client.executeWith retry template scope).Spares top own fun _ => True := by
  apply Trial.spares_bind
  · exact Trial.guarantees_readExcept _ _ (fun w _ => Store.spares_refl top own w.store) _
  · exact fun request => client.spares_attempts top own request _ _

end Client

namespace Fixture

/-- A fixture whose builds write to no scope made before the one that they are given. -/
def Private (fixture : Fixture) : Prop :=
  ∀ (top : Nat) (context : Context) (params : Params), top ≤ context.scope →
    (fixture.build context params).Spares top none fun _ => True

/-- All that a build can do with its context spares the scopes made before, so what is put together
from it does. -/
theorem Context.closed_spares (context : Context) (top : Nat) (hs : top ≤ context.scope) :
    context.Closed fun _ trial => trial.Spares top none fun _ => True where
  pure := fun _ _ => Trial.guarantees_pure _ _ _ _ True.intro
  bind := fun _ _ => Trial.spares_bind top none
  set := fun key value => Trial.spares_store top none _ fun store =>
    Store.spares_set top none store context.scope key value (Or.inr hs)
  has := fun _ => Trial.spares_read top none _
  request := fun stage template expect => by
    apply Trial.spares_bind
    · exact Trial.guarantees_mapError _ _ _ _ (context.client.spares_executeWith top none _ _ _)
    · intro response
      split
      · exact Trial.guarantees_pure _ _ _ _ True.intro
      · exact Trial.guarantees_throw _ _ _ _
  extract := fun _ _ _ => Trial.guarantees_ofExcept _ _ _
  outputs := fun _ =>
    Trial.guarantees_readExcept _ _ (fun w _ => Store.spares_refl top none w.store) _

theorem private_of_isStandard (registry : Registry) (h : registry.IsStandard) :
    ∀ fixture ∈ registry, fixture.Private :=
  fun fixture hf top context params hs =>
    registry.closed_of_isStandard h fixture hf context params _ (context.closed_spares top hs)

variable (top : Nat) (registry : Registry) (client : Client) (caller : ScopeId)

/-- The scope of a build is new, and only that scope is written to when it is opened. -/
theorem spares_openScope (fixture : Fixture) (call : Call) (inherited : List Outputs)
    (w : World) (hw : top ≤ w.store.length) :
    top ≤ (fixture.openScope call inherited caller w).1 ∧
      Store.Spares top none w.store (fixture.openScope call inherited caller w).2.store := by
  have hfold (store : Store) : Store.Spares top none store
      (inherited.foldl (fun store outputs => store.merge w.store.length outputs) store) := by
    induction inherited generalizing store with
    | nil => exact Store.spares_refl top none store
    | cons outputs rest ih =>
      exact Store.spares_trans top none _ _ _ (Store.spares_merge top none store _ _ (Or.inr hw))
        (ih _)
  have hopen : Store.Spares top none w.store (w.store.isolate caller (scopeName fixture.name)).1 :=
    Store.spares_cons top none w.store _ hw
  have hparams := Store.spares_merge top none
    (inherited.foldl (fun store outputs => store.merge w.store.length outputs)
      (w.store.isolate caller (scopeName fixture.name)).1) w.store.length call.params (Or.inr hw)
  exact ⟨hw, Store.spares_trans top none _ _ _ hopen
    (Store.spares_trans top none _ _ _ (hfold _) hparams)⟩

theorem spares_buildOne (fixture : Fixture) (call : Call) (inherited : List Outputs)
    (hp : fixture.Private) :
    (buildOne client caller fixture call inherited).Spares top none fun _ => True := by
  apply Trial.guarantees_bind _ _ (fun scope => top ≤ scope)
  · apply Trial.guarantees_update
    exact fun w hw => spares_openScope top caller fixture call inherited w hw
  intro scope hs
  apply Trial.spares_bind
  · exact Trial.spares_read top none _
  rintro (_ | key)
  · apply Trial.spares_bind
    · exact Trial.guarantees_mapError _ _ _ _ (hp top ⟨fixture.name, client, scope⟩ call.params hs)
    · exact fun produced => Trial.guarantees_ofExcept _ _ _
  · exact Trial.guarantees_throw _ _ _ _

theorem spares_buildRest (hp : ∀ fixture ∈ registry, fixture.Private) (plan : List Call)
    (built : Built) :
    (buildRest registry client caller built plan).Spares top none fun _ => True := by
  induction plan generalizing built with
  | nil => exact Trial.guarantees_pure _ _ _ _ True.intro
  | cons call rest ih =>
    rw [buildRest]
    cases hg : registry.get call.name with
    | error e => exact .done _ True.intro
    | ok fixture =>
      have hf := hp fixture (mem_of_get? registry _ _ (Registry.get?_of_get registry _ _ hg))
      refine Trial.guarantees_bind _ _ (fun f => f = fixture) _ _ _
        (Trial.guarantees_pure _ _ _ fixture rfl) ?_
      rintro _ rfl
      apply Trial.spares_bind
      · exact Trial.guarantees_ofExcept _ _ _
      intro inherited
      apply Trial.spares_bind
      · exact spares_buildOne top client caller _ call inherited hf
      · exact fun outputs => ih _

/-- The only scope made before that a build writes to is that of its caller. -/
theorem spares_buildAll (hp : ∀ fixture ∈ registry, fixture.Private) (calls : List Call) :
    (buildAll registry client caller calls).Spares top (some caller) fun _ => True := by
  apply Trial.spares_bind
  · exact Trial.guarantees_ofExcept _ _ _
  intro plan
  apply Trial.spares_bind
  · exact Trial.spares_of_none top _ _ _ (spares_buildRest top registry client caller hp plan [])
  intro built
  apply Trial.spares_bind
  · apply Trial.guarantees_modify
    exact fun w _ => Store.spares_merge top (some caller) w.store caller _ (Or.inl rfl)
  · exact fun _ => Trial.guarantees_ofExcept _ _ _

end Fixture

namespace Scenario
variable (top : Nat) (client : Client) (retry : RetryPolicy) (scope : ScopeId)

theorem spares_captureAll (response : Response) (captures : List (String × String))
    (store : Store) : Store.Spares top (some scope) store
      (captureAll scope response captures store) := by
  induction captures generalizing store with
  | nil => exact Store.spares_refl top _ store
  | cons capture rest ih =>
    refine Store.spares_trans top _ _ _ _ ?_ (ih _)
    dsimp only
    split
    · exact Store.spares_set top _ store scope _ _ (Or.inl rfl)
    · exact Store.spares_remove top _ store scope _ (Or.inl rfl)

theorem spares_carryOut (manner : Manner) (index : Nat) (step : RequestStep) :
    (manner.carryOut client retry scope index step).Spares top (some scope) fun _ => True := by
  apply Trial.spares_bind
  · exact Trial.guarantees_mapError _ _ _ _ (client.spares_executeWith top _ _ _ _)
  intro response
  apply Trial.spares_bind
  · exact Trial.spares_tell top _ _
  intro _
  split
  · apply Trial.spares_bind
    · exact Trial.spares_store top _ _ (spares_captureAll top scope response step.capture)
    · exact fun _ => Trial.guarantees_pure _ _ _ _ True.intro
  · exact Trial.guarantees_throw _ _ _ _

theorem spares_carryAll (manner : Manner) (index : Nat) (steps : List RequestStep) :
    (manner.carryAll client retry scope index steps).Spares top (some scope) fun _ => True := by
  induction steps generalizing index with
  | nil => exact Trial.guarantees_pure _ _ _ _ True.intro
  | cons step rest ih =>
    apply Trial.spares_bind
    · exact spares_carryOut top client retry scope manner index step
    intro labelled
    apply Trial.spares_bind
    · exact ih _
    · exact fun _ => Trial.guarantees_pure _ _ _ _ True.intro

variable (runner : Runner) (scenario : Scenario)

theorem spares_buildFixtures (hp : ∀ fixture ∈ runner.registry, fixture.Private) :
    (buildFixtures runner scenario scope).Spares top (some scope) fun _ => True := by
  rw [buildFixtures]
  split
  · exact Trial.guarantees_pure _ _ _ _ True.intro
  · apply Trial.spares_bind
    · exact Fixture.spares_buildAll top runner.registry _ scope hp _
    · exact fun _ => Trial.guarantees_pure _ _ _ _ True.intro

/-- The phases of a scenario write to no scope made before but its own. -/
theorem spares_runPhases (hp : ∀ fixture ∈ runner.registry, fixture.Private) :
    (scenario.runPhases runner scope).Spares top (some scope) fun _ => True := by
  apply Trial.spares_bind
  · exact Trial.spares_tell top _ _
  intro _
  apply Trial.spares_bind
  · exact spares_buildFixtures top scope runner scenario hp
  intro _
  apply Trial.spares_bind
  · rw [Manner.runSetup_eq]
    apply Trial.spares_bind
    · exact spares_carryAll top _ _ scope _ _ _
    · exact fun _ => Trial.guarantees_pure _ _ _ _ True.intro
  intro _
  apply Trial.spares_bind
  · exact Trial.spares_tell top _ _
  intro _
  apply Trial.spares_bind
  · rw [Manner.runActions_eq]
    exact spares_carryAll top _ _ scope _ _ _
  intro responses
  apply Trial.spares_bind
  · exact Trial.spares_tell top _ _
  · exact fun _ => Trial.spares_read top _ _

theorem spares_runTeardownStep (index : Nat) (step : RequestStep) :
    (runTeardownStep client scope index step).Spares top (some scope) fun _ => True := by
  refine Routine.guarantees_bind _ _ _ _ _ _ (client.spares_executeWith top _ _ step.request scope)
    ?_
  intro outcome _
  cases outcome with
  | ok response =>
    exact .note _ _ (fun w _ => Store.spares_refl top _ w.store) (.done _ True.intro)
  | error e => exact .done _ True.intro

theorem spares_runTeardown (index : Nat) (steps : List RequestStep) :
    (runTeardown client scope index steps).Spares top (some scope) fun _ => True := by
  induction steps generalizing index with
  | nil => exact .done _ True.intro
  | cons step rest ih =>
    refine Routine.guarantees_bind _ _ (fun _ => True) _ _ _
      (spares_runTeardownStep top client scope index step) ?_
    intro complaint _
    exact Routine.guarantees_bind _ _ (fun _ => True) _ _ _ (ih _) fun _ _ => .done _ True.intro

/-- A scenario writes to the scope that it runs in. -/
theorem spares_run (hp : ∀ fixture ∈ runner.registry, fixture.Private) :
    (scenario.run runner scope).Spares top (some scope) fun _ => True := by
  have hphases := Routine.guarantees_within _ _ _ _ (scenario.timeLimit runner)
    (spares_runPhases top scope runner scenario hp)
  have hteardown := spares_runTeardown top runner.client scope 0 scenario.teardown
  refine Routine.guarantees_bind _ _ (fun _ => True) _ _ _
    (Routine.guarantees_collect _ _ _ _ hphases) ?_
  intro outcome _
  exact Routine.guarantees_bind _ _ (fun _ => True) _ _ _
    (Routine.guarantees_collect _ _ _ _ hteardown) fun _ _ => .done _ True.intro

end Scenario

/-- So does a lane. -/
theorem Suite.spares_runLane (top : Nat) (runner : Runner) (scope : ScopeId)
    (hp : ∀ fixture ∈ runner.registry, fixture.Private) (scenarios : List LoadedScenario) :
    (runLane runner scope scenarios).Spares top (some scope) fun _ => True := by
  induction scenarios with
  | nil => exact .done _ True.intro
  | cons loaded rest ih =>
    refine Routine.guarantees_bind _ _ (fun _ => True) _ _ _
      (loaded.scenario.spares_run top scope runner hp) ?_
    intro report _
    exact Routine.guarantees_bind _ _ (fun _ => True) _ _ _ ih fun _ _ => .done _ True.intro

end ApiTrial
