import ApiTrial.Proofs.CallIdentity
import ApiTrial.Proofs.RequestCourse

/-! What the steps of a recipe see. The scope of a build is written to by several hands: what the
dependencies have made, the parameters of the call, the defaults that these do not replace, and then
what each step takes from its response. Since a later value hides an earlier one, a step finds the
latest value of the build under a key, and else what the caller held before anything was built. -/
namespace ApiTrial

namespace Fixture

def Built.handed? (built : Built) (dependencies : List Call) (key : String) : Option Json :=
  dependencies.reverse.findSome? fun dependency =>
    (built.outputs? dependency).bind fun outputs => (Table.ofEntries outputs).get? key

end Fixture

namespace Recipe

def Step.takes? (step : Step) (response : Response) (key : String) : Option Json :=
  ((Table.ofEntries step.extract).get? key).bind response.capture?

def taken? (done : List (Step × Response)) (key : String) : Option Json :=
  done.reverse.findSome? fun entry => entry.1.takes? entry.2 key

/-- What a step of a build sees under a key: what the latest of the steps in front has taken, a
parameter, a default, what the last of the dependencies has handed down, or what is seen around the
build. -/
def sees? (recipe : Recipe) (call : Fixture.Call) (built : Fixture.Built)
    (around : String → Option Json) (done : List (Step × Response)) (key : String) : Option Json :=
  (taken? done key).or <| ((Table.ofEntries call.params).get? key).or <|
    ((Table.ofEntries recipe.params).get? key).or <|
      (built.handed? recipe.dependsOn key).or (around key)

theorem taken?_cons (step : Step) (response : Response) (done : List (Step × Response))
    (key : String) :
    taken? ((step, response) :: done) key = (taken? done key).or (step.takes? response key) := by
  rw [taken?, List.reverse_cons, List.findSome?_append, List.findSome?_singleton]
  rfl

section Steps
variable (context : Fixture.Context) (network : Network)

/-- A default is seen unless the call has a parameter of its name. -/
theorem lookup_setDefaults (params : Fixture.Params) (defaults : List (String × Json))
    (world after : World) (hs : context.scope < world.store.length)
    (h : (setDefaults context params defaults).exec network world = (.ok (), after))
    (key : String) :
    after.store.lookup context.scope key =
      (if params.contains key then none else (Table.ofEntries defaults).get? key).or
        (world.store.lookup context.scope key) := by
  induction defaults generalizing world with
  | nil =>
    cases h
    simp [Table.ofEntries, Table.insertAll, Table.get?]
  | cons entry rest ih =>
    obtain ⟨k, value⟩ := entry
    have hfirst := Table.get?_ofEntries_cons k value rest key
    rw [setDefaults] at h
    cases hp : params.contains k with
    | true =>
      rw [hp] at h
      rw [ih world hs h, hfirst]
      by_cases hk : k = key
      · rw [← hk, hp, if_pos rfl]
        rfl
      · rw [if_neg hk, Option.or_none]
    | false =>
      rw [hp] at h
      obtain ⟨_, middle, hset, h⟩ := Trial.exec_bind_ok _ _ _ _ _ _ h
      cases hset
      have hlen := Store.length_set world.store context.scope k value
      rw [ih _ (Nat.lt_of_lt_of_eq hs hlen.symm) h, hfirst]
      show Option.or _ ((world.store.set context.scope k value).lookup context.scope key) = _
      by_cases hk : k = key
      · rw [← hk, hp, Store.lookup_set_self _ _ _ _ hs]
        simp
      · rw [Store.lookup_set_of_ne _ _ _ _ _ _ hk, if_neg hk, Option.or_none]

/-- Defaults are set without fail, and nothing is sent for them. -/
theorem exists_setDefaults (params : Fixture.Params) (defaults : List (String × Json))
    (world : World) : ∃ after, (setDefaults context params defaults).Goes network world (.ok ())
      after [] := by
  induction defaults generalizing world with
  | nil => exact ⟨world, rfl, rfl⟩
  | cons entry rest ih =>
    rw [setDefaults]
    split
    · obtain ⟨after, hrest⟩ :=
        ih (world.mapStore fun store => store.set context.scope entry.1 entry.2)
      exact ⟨after, Trial.goes_bind network _ _ world _ after () (.ok ()) [] [] ⟨rfl, rfl⟩ hrest⟩
    · exact ih world

/-- What is taken from a response is seen from then on, and each source has a value. -/
theorem lookup_extractAll (stage : String) (response : Response) (sources : List (String × String))
    (world after : World) (hs : context.scope < world.store.length)
    (h : (extractAll context stage response sources).exec network world = (.ok (), after)) :
    (∀ entry ∈ sources, (response.capture? entry.2).isSome = true) ∧
    ∀ key, after.store.lookup context.scope key =
      (((Table.ofEntries sources).get? key).bind response.capture?).or
        (world.store.lookup context.scope key) := by
  induction sources generalizing world with
  | nil =>
    cases h
    exact ⟨nofun, fun key => rfl⟩
  | cons entry rest ih =>
    obtain ⟨k, source⟩ := entry
    rw [extractAll] at h
    obtain ⟨value, found, hv, h⟩ := Trial.exec_bind_ok _ _ _ _ _ _ h
    obtain ⟨_, middle, hset, h⟩ := Trial.exec_bind_ok _ _ _ _ _ _ h
    cases hset
    rw [Trial.exec_ofExcept, Prod.mk.injEq, Fixture.Context.extract] at hv
    obtain ⟨hv, rfl⟩ := hv
    have hcapture : response.capture? source = some value := by
      cases hc : response.capture? source with
      | none =>
        rw [hc] at hv
        cases hv
      | some v =>
        rw [hc] at hv
        exact congrArg some (Except.ok.inj hv)
    have hlen := Store.length_set world.store context.scope k value
    obtain ⟨hall, hrest⟩ := ih _ (Nat.lt_of_lt_of_eq hs hlen.symm) h
    refine ⟨List.forall_mem_cons.mpr ⟨by rw [hcapture]; rfl, hall⟩, fun key => ?_⟩
    rw [hrest key, Table.get?_ofEntries_cons]
    show Option.or _ ((world.store.set context.scope k value).lookup context.scope key) = _
    cases hg : Table.get? key (Table.ofEntries rest) with
    | some later =>
      have hsome := hall _ (Table.mem_of_get?_ofEntries rest key later hg)
      obtain ⟨v, hv⟩ := Option.isSome_iff_exists.mp hsome
      simp [hv]
    | none =>
      by_cases hk : k = key
      · rw [← hk, Store.lookup_set_self _ _ _ _ hs]
        simp [hcapture]
      · rw [Store.lookup_set_of_ne _ _ _ _ _ _ hk]
        simp [hk]

structure Answered (begun : World) (done : List (Step × Response)) : Prop where
  sent : ∀ front step response rest, done = front ++ (step, response) :: rest →
    ∃ middle answered,
      (runSteps context (front.map Prod.fst)).exec network begun = (.ok (), middle) ∧
      (context.request step.name step.request step.expect).exec network middle =
        (.ok response, answered)
  taken : ∀ entry ∈ done, ∀ key ∈ entry.1.extract.keys, (entry.1.takes? entry.2 key).isSome = true

theorem answered_nil (begun : World) : Answered context network begun [] where
  sent := by simp
  taken := by simp

/-- A step that goes well may stand in front of others that do. -/
theorem answered_cons (step : Step) (response : Response) (done : List (Step × Response))
    (world answered middle : World)
    (hr : (context.request step.name step.request step.expect).exec network world =
      (.ok response, answered))
    (he : (extractAll context step.name response step.extract).exec network answered =
      (.ok (), middle))
    (ht : ∀ entry ∈ step.extract, (response.capture? entry.2).isSome = true)
    (h : Answered context network middle done) :
    Answered context network world ((step, response) :: done) where
  sent := by
    intro front other found rest hx
    cases front with
    | nil =>
      obtain ⟨hentry, -⟩ := List.cons.inj hx
      cases hentry
      exact ⟨world, answered, rfl, hr⟩
    | cons entry front =>
      obtain ⟨rfl, hrest⟩ := List.cons.inj hx
      obtain ⟨reached, behind, hfront, hother⟩ := h.sent front other found rest hrest
      refine ⟨reached, behind, ?_, hother⟩
      rw [List.map_cons, runSteps, Trial.exec_bind_of_ok _ _ _ _ answered response hr,
        Trial.exec_bind_of_ok _ _ _ _ middle () he]
      exact hfront
  taken := by
    refine List.forall_mem_cons.mpr ⟨fun key hk => ?_, h.taken⟩
    obtain ⟨source, hsource⟩ := Option.isSome_iff_exists.mp
      ((Table.get?_ofEntries_isSome_iff step.extract key).mpr hk)
    have hsome := ht _ (Table.mem_of_get?_ofEntries step.extract key source hsource)
    rw [Step.takes?, hsource]
    exact hsome

/-- Behind some steps, what the latest of them has taken is seen over what was seen before. -/
theorem lookup_runSteps (steps : List Step) (world after : World)
    (hs : context.scope < world.store.length)
    (h : (runSteps context steps).exec network world = (.ok (), after)) :
    ∃ done : List (Step × Response), done.map Prod.fst = steps ∧
      Answered context network world done ∧
      ∀ key, after.store.lookup context.scope key =
        (taken? done key).or (world.store.lookup context.scope key) := by
  induction steps generalizing world with
  | nil =>
    cases h
    exact ⟨[], rfl, answered_nil context network _, fun key => rfl⟩
  | cons step rest ih =>
    rw [runSteps] at h
    obtain ⟨response, answered, hr, h⟩ := Trial.exec_bind_ok _ _ _ _ _ _ h
    obtain ⟨_, middle, he, h⟩ := Trial.exec_bind_ok _ _ _ _ _ _ h
    have hstore := context.store_of_request network step.name step.request step.expect world
    rw [hr] at hstore
    have hs' : context.scope < answered.store.length := by rwa [hstore]
    obtain ⟨hlength, -⟩ :=
      layer_extractAll context network step.name response step.extract answered middle hs' he
    obtain ⟨hall, hfirst⟩ :=
      lookup_extractAll context network step.name response step.extract answered middle hs' he
    obtain ⟨done, hdone, hanswered, hrest⟩ := ih middle (Nat.lt_of_lt_of_eq hs' hlength.symm) h
    refine ⟨(step, response) :: done, by rw [List.map_cons, hdone],
      answered_cons context network step response done world answered middle hr he hall hanswered,
      fun key => ?_⟩
    rw [hrest key, hfirst key, taken?_cons, Option.or_assoc, hstore]
    rfl

end Steps

end Recipe

namespace Fixture

def Built.Hands (registry : Registry) (built : Built) (dependency : Call) (key : String) : Prop :=
  ∃ entry ∈ built.calls, entry.Shares dependency ∧ registry.Declares entry key

inductive Built.HandsLast (registry : Registry) (built : Built) (dependencies : List Call)
    (key : String) : Option Json → Prop
  | some (before : List Call) (dependency : Call) (after : List Call) (entry : Call)
      (made : Outputs) (value : Json) (hd : dependencies = before ++ dependency :: after)
      (he : (entry, made) ∈ built) (hs : entry.Shares dependency)
      (hk : registry.Declares entry key)
      (hv : (Table.ofEntries made).get? key = Option.some value)
      (hl : ∀ later ∈ after, ¬ built.Hands registry later key) :
      HandsLast registry built dependencies key (Option.some value)
  | none (h : ∀ dependency ∈ dependencies, ¬ built.Hands registry dependency key) :
      HandsLast registry built dependencies key Option.none

section Handed
variable (registry : Registry) (built : Built) (hb : built.Faithful registry)
  (hn : (built.calls.map Call.identity).Nodup)
include hb hn

/-- A dependency has a value under exactly the keys that it hands down. -/
theorem exists_value_iff_hands (dependency : Call) (made : Outputs) (key : String)
    (h : built.outputs? dependency = some made) :
    ((Table.ofEntries made).get? key).isSome = true ↔ built.Hands registry dependency key := by
  obtain ⟨entry, hmem, hshares⟩ := exists_entry_of_outputs? built dependency made h
  rw [Table.get?_ofEntries_isSome_iff]
  constructor
  · intro hk
    exact ⟨entry, List.mem_map_of_mem hmem, hshares, (hb _ hmem key).mp hk⟩
  · rintro ⟨other, ho, hs, hk⟩
    have hother : other = entry := by
      apply List.inj_on_of_nodup_map hn ho (List.mem_map_of_mem hmem)
      rw [(other.identity_eq_iff_shares dependency).mpr hs,
        (entry.identity_eq_iff_shares dependency).mpr hshares]
    exact (hb _ hmem key).mpr (hother ▸ hk)

/-- What is handed down under a key is what the last dependency has made that hands it down. The
induction takes the dependencies from the last one on. -/
theorem handsLast_handed? (dependencies : List Call)
    (h : ∀ dependency ∈ dependencies, ∃ made, built.outputs? dependency = some made)
    (key : String) :
    built.HandsLast registry dependencies key (built.handed? dependencies key) := by
  induction dependencies using List.reverseRecOn with
  | nil => exact .none (by simp)
  | append_singleton before dependency ih =>
    obtain ⟨made, hmade⟩ := h dependency (by simp)
    have hiff := exists_value_iff_hands registry built hb hn dependency made key hmade
    have hlast : built.handed? (before ++ [dependency]) key =
        ((Table.ofEntries made).get? key).or (built.handed? before key) := by
      rw [Built.handed?, List.reverse_append, List.findSome?_append, List.reverse_singleton,
        List.findSome?_singleton, hmade]
      rfl
    rw [hlast]
    cases hv : (Table.ofEntries made).get? key with
    | some value =>
      obtain ⟨entry, hmem, hshares⟩ := exists_entry_of_outputs? built dependency made hmade
      have hk : key ∈ Table.keys made :=
        List.mem_map_of_mem (Table.mem_of_get?_ofEntries made key value hv)
      exact .some before dependency [] entry made value rfl hmem hshares ((hb _ hmem key).mp hk) hv
        nofun
    | none =>
      have hnot : ¬ built.Hands registry dependency key := by
        rw [← hiff, hv]
        exact Bool.false_ne_true
      have hbefore := ih fun d hd => h d (List.mem_append_left _ hd)
      rw [Option.none_or]
      generalize built.handed? before key = handed at hbefore
      cases hbefore with
      | none hall =>
        refine .none fun d hd => ?_
        rcases List.mem_append.mp hd with hd | hd
        · exact hall d hd
        · exact List.mem_singleton.mp hd ▸ hnot
      | some front d after entry made value hd he hs hk hv hl =>
        refine .some front d (after ++ [dependency]) entry made value (by simp [hd]) he hs hk hv ?_
        intro later hlater
        rcases List.mem_append.mp hlater with hlater | hlater
        · exact hl later hlater
        · exact List.mem_singleton.mp hlater ▸ hnot

end Handed

section Scope
variable (client : Client) (caller : ScopeId) (network : Network) (call : Call) (built : Built)
  (inherited : List Outputs) (world : World)

theorem findSome?_inherited (fixture : Fixture) (key : String)
    (h : fixture.inherited call built = .ok inherited) :
    (inherited.reverse.findSome? fun outputs => (Table.ofEntries outputs).get? key) =
      built.handed? (fixture.dependencies call.params) key := by
  have hmade := List.forall₂_reverse_iff.mpr (outputs?_of_mapM built _ _ _ h)
  rw [Built.handed?]
  generalize (fixture.dependencies call.params).reverse = dependencies at hmade
  generalize inherited.reverse = handed at hmade
  induction hmade with
  | nil => rfl
  | cons hfirst _ ih =>
    rw [List.findSome?_cons, List.findSome?_cons, hfirst, Option.bind_some, ih]

/-- When a build begins, its scope sees the parameters of the call over what is handed down, and
what the caller sees around both. -/
theorem lookup_openScope (fixture : Fixture) (h : fixture.inherited call built = .ok inherited)
    (key : String) :
    (fixture.openScope call inherited caller world).2.store.lookup
        (fixture.openScope call inherited caller world).1 key =
      ((Table.ofEntries call.params).get? key).or
        ((built.handed? (fixture.dependencies call.params) key).or
          (world.store.lookup caller key)) := by
  have hl : world.store.length <
      (world.store.isolate caller (scopeName fixture.name)).1.length := Nat.lt_succ_self _
  have hinherited := Store.lookup_foldl_merge
    (world.store.isolate caller (scopeName fixture.name)).1 world.store.length inherited key hl
  rw [findSome?_inherited call built inherited fixture key h, Store.lookup_isolate] at hinherited
  rw [← hinherited]
  exact Store.lookup_merge _ _ call.params key (by rwa [Store.length_foldl_merge])

/-- The steps of a recipe begin in some world. Either the build comes to them, and then all that is
sent for the build is sent for them, or nothing is sent. -/
theorem exists_beginsIn (recipe : Recipe) :
    ∃ scope begun, BeginsIn client caller network recipe call inherited world scope begun ∧
      ((buildOne client caller recipe.fixture call inherited).course network world = [] ∨
        (buildOne client caller recipe.fixture call inherited).course network world =
          (Recipe.runSteps ⟨recipe.name, client, scope⟩ recipe.steps).course network begun) := by
  obtain ⟨begun, hexec, hcourse⟩ := Recipe.exists_setDefaults
    ⟨recipe.name, client, (recipe.fixture.openScope call inherited caller world).1⟩ network
    call.params recipe.params (recipe.fixture.openScope call inherited caller world).2
  refine ⟨_, begun, ⟨rfl, hexec⟩, ?_⟩
  rw [buildOne, Trial.course_bind_of_ok network _ _ world _ _ (Trial.exec_update _ _ _),
    Trial.course_update, List.nil_append,
    Trial.course_bind_of_ok network _ _ _ _ _ (Trial.exec_read _ _ _), Trial.course_read,
    List.nil_append]
  cases recipe.fixture.missingKey? (recipe.fixture.openScope call inherited caller world).1
      (recipe.fixture.openScope call inherited caller world).2 with
  | some key => exact Or.inl rfl
  | none =>
    refine Or.inr ?_
    dsimp only
    rw [Trial.course_bind_of_quiet network _ _ _ fun _ _ => rfl, Trial.course_mapError]
    show (Recipe.build recipe ⟨recipe.name, client, _⟩ call.params).course network _ = _
    rw [Recipe.build, Trial.course_bind_of_ok network _ _ _ begun () hexec, hcourse,
      List.nil_append, Trial.course_bind_of_quiet network _ _ _ fun _ _ => rfl]

variable (recipe : Recipe) (hi : recipe.fixture.inherited call built = .ok inherited)
  (scope : ScopeId) (begun : World)
  (hb : BeginsIn client caller network recipe call inherited world scope begun)
include hi hb

/-- Where the steps of a recipe begin, the defaults stand below the parameters. -/
theorem lookup_of_beginsIn :
    scope < begun.store.length ∧ ∀ key, begun.store.lookup scope key =
      recipe.sees? call built (world.store.lookup caller) [] key := by
  obtain ⟨rfl, hdefaults⟩ := hb
  have hscope := lt_openScope recipe.fixture call inherited caller world
  obtain ⟨hlength, -⟩ := Recipe.layer_setDefaults _ network _ _ _ _ hscope hdefaults
  refine ⟨Nat.lt_of_lt_of_eq hscope hlength.symm, fun key => ?_⟩
  have hlookup := Recipe.lookup_setDefaults _ network _ _ _ _ hscope hdefaults key
  have hopen := lookup_openScope caller call built inherited world recipe.fixture hi key
  refine hlookup.trans ?_
  show Option.or _ ((recipe.fixture.openScope call inherited caller world).2.store.lookup
    (recipe.fixture.openScope call inherited caller world).1 key) = _
  rw [hopen, Recipe.sees?]
  have hcontains := Table.isSome_get?_ofEntries call.params key
  cases hp : (Table.ofEntries call.params).get? key with
  | some value =>
    rw [hp] at hcontains
    rw [← hcontains]
    rfl
  | none =>
    rw [hp] at hcontains
    rw [← hcontains]
    rfl

/-- Each step that a build comes to sees what it should, and its requests are filled in with
that. -/
theorem step_of_beginsIn (before : List Recipe.Step) (step : Recipe.Step) (reached : World)
    (h : (Recipe.runSteps ⟨recipe.name, client, scope⟩ before).exec network begun =
      (.ok (), reached)) :
    ∃ done : List (Recipe.Step × Response), done.map Prod.fst = before ∧
      Recipe.Answered ⟨recipe.name, client, scope⟩ network begun done ∧
      (∀ key, reached.store.lookup scope key =
        recipe.sees? call built (world.store.lookup caller) done key) ∧
      client.SendsFor
        (step.request.resolve (recipe.sees? call built (world.store.lookup caller) done))
        (Mark.requests ((Context.request ⟨recipe.name, client, scope⟩ step.name step.request
          step.expect).course network reached)) := by
  obtain ⟨hscope, hbegun⟩ :=
    lookup_of_beginsIn client caller network call built inherited world recipe hi scope begun hb
  obtain ⟨done, hdone, hanswered, hlookup⟩ :=
    Recipe.lookup_runSteps ⟨recipe.name, client, scope⟩ network before begun reached hscope h
  have hsees (key : String) : reached.store.lookup scope key =
      recipe.sees? call built (world.store.lookup caller) done key := by
    refine (hlookup key).trans ?_
    show Option.or _ (begun.store.lookup scope key) = _
    rw [hbegun key]
    rfl
  refine ⟨done, hdone, hanswered, hsees, ?_⟩
  have hsent := client.sendsFor_execute network step.request scope reached
  rw [funext hsees, ← Context.course_request ⟨recipe.name, client, scope⟩ network step.name
    step.request step.expect reached] at hsent
  exact hsent

end Scope

section Plan
variable (registry : Registry) (client : Client) (caller : ScopeId) (network : Network)
  (world : World)

/-- Where no namesake stands for a dependency, it hands down what its own fixture declares. -/
theorem hands_iff_declares (front : List Call) (built : Built) (dependency : Call)
    (hcalls : built.calls = front)
    (hplaced : dependency.identity ∈ front.map Call.identity)
    (hname : ∀ entry ∈ front, entry.Shares dependency → entry.name = dependency.name)
    (key : String) : built.Hands registry dependency key ↔ registry.Declares dependency key := by
  rw [Built.Hands, hcalls]
  constructor
  · rintro ⟨entry, he, hs, fixture, hf, hk⟩
    exact ⟨fixture, hname entry he hs ▸ hf, hk⟩
  · rintro ⟨fixture, hf, hk⟩
    obtain ⟨entry, he, hi⟩ := List.mem_map.mp hplaced
    have hs := (entry.identity_eq_iff_shares dependency).mp hi
    exact ⟨entry, he, hs, fixture, hname entry he hs ▸ hf, hk⟩

/-- Of the caller's variables, a resolution changes at most those that a call of its plan declares,
and none if it fails. -/
theorem lookup_buildAll (hc : ∀ fixture ∈ registry, fixture.Confined)
    (hs : caller < world.store.length) (calls plan : List Call)
    (hp : registry.plan calls = .ok plan) (outcome : Except Error (List Outputs)) (after : World)
    (h : (buildAll registry client caller calls).exec network world = (outcome, after))
    (key : String) (hk : (∃ e, outcome = .error e) ∨ ¬ registry.Announces plan key) :
    after.store.lookup caller key = world.store.lookup caller key := by
  rcases buildAll_cases registry client caller network calls world after _ h with
    ⟨_, _, _, rfl⟩ | ⟨_, _, _, _, hb⟩ | ⟨plan', built, reached, made, hp', ho, hb, hr, rfl⟩
  · rfl
  · exact world.lookup_of_growsTo after
      (growsTo_of_buildRest registry client caller network hc _ [] world after _ hb) caller key hs
  · cases hp.symm.trans hp'
    have hcalls : built.calls = plan :=
      calls_of_buildRest registry client caller network plan [] built world reached hb
    have hfaith := faithful_of_buildRest registry client caller network plan [] built world reached
      nofun hb
    have hgrows := growsTo_of_buildRest registry client caller network hc plan [] world reached _ hb
    have hquiet : ¬ registry.Announces plan key := hk.resolve_left fun ⟨e, he⟩ => by
      rw [ho] at he
      cases he
    rw [lookup_commit caller built world reached key hgrows hs]
    cases hv : (Table.ofEntries (built.flatMap (·.2))).get? key with
    | none => rfl
    | some value =>
      obtain ⟨entry, he, hm⟩ := List.mem_flatMap.mp (Table.mem_of_get?_ofEntries _ key value hv)
      refine absurd ⟨entry.1, ?_, (hfaith entry he key).mp (List.mem_map_of_mem hm)⟩ hquiet
      rw [← hcalls]
      exact List.mem_map_of_mem he

/-- The scope of the next build of a plan, behind what is built in front of it. `around` is what the
caller saw before the resolution. -/
structure Scoped (around : String → Option Json) (front : List Call) (call : Call)
    (fixture : Fixture) (built : Built) (inherited : List Outputs) : Prop where
  /-- The last dependency that hands down a key gives the value. -/
  handed : ∀ key, built.HandsLast registry (fixture.dependencies call.params) key
    (built.handed? (fixture.dependencies call.params) key)
  /-- A dependency hands down what its fixture declares, unless a namesake is built in its place. -/
  declared : ∀ dependency ∈ fixture.dependencies call.params,
    (∀ entry ∈ front, entry.Shares dependency → entry.name = dependency.name) →
    ∀ key, built.Hands registry dependency key ↔ registry.Declares dependency key
  /-- At first the scope sees parameters, then what is handed down, then what is around it. -/
  opened : ∀ key, (fixture.openScope call inherited caller world).2.store.lookup
      (fixture.openScope call inherited caller world).1 key =
    ((Table.ofEntries call.params).get? key).or
      ((built.handed? (fixture.dependencies call.params) key).or (around key))
  /-- Every other scope sees what it saw. -/
  kept : ∀ outcome after,
    (buildOne client caller fixture call inherited).exec network world = (outcome, after) →
    ∀ id < world.store.length, ∀ key, after.store.lookup id key = world.store.lookup id key
  /-- What is handed on is what the fixture declares. -/
  made : ∀ made after,
    (buildOne client caller fixture call inherited).exec network world = (.ok made, after) →
    ∀ key, key ∈ Table.keys made ↔ key ∈ fixture.outputs
  /-- The steps of a recipe are all that sends anything; each of them that the build comes to sees
  what the steps in front have taken, the parameters, the defaults, what is handed down and what is
  around, in this order, and its requests are filled in with that. -/
  steps : ∀ recipe : Recipe, fixture = recipe.fixture → ∃ scope begun,
    BeginsIn client caller network recipe call inherited world scope begun ∧
    ((buildOne client caller fixture call inherited).course network world = [] ∨
      (buildOne client caller fixture call inherited).course network world =
        (Recipe.runSteps ⟨recipe.name, client, scope⟩ recipe.steps).course network begun) ∧
    ∀ before step behind reached, recipe.steps = before ++ step :: behind →
      (Recipe.runSteps ⟨recipe.name, client, scope⟩ before).exec network begun = (.ok (), reached) →
      ∃ done : List (Recipe.Step × Response), done.map Prod.fst = before ∧
        Recipe.Answered ⟨recipe.name, client, scope⟩ network begun done ∧
        (∀ key, reached.store.lookup scope key = recipe.sees? call built around done key) ∧
        client.SendsFor (step.request.resolve (recipe.sees? call built around done))
          (Mark.requests ((Context.request ⟨recipe.name, client, scope⟩ step.name step.request
            step.expect).course network reached))

/-- Behind the calls in front of it, the next call of a plan is built in a scope as it should be. -/
theorem scoped_of_buildRest (plan : List Call) (hc : ∀ fixture ∈ registry, fixture.Confined)
    (hs : caller < world.store.length) (hsettled : registry.Settled plan) (front : List Call)
    (call : Call) (rest : List Call) (hplan : plan = front ++ call :: rest) (built : Built)
    (middle : World)
    (hb : (buildRest registry client caller [] front).exec network world = (.ok built, middle)) :
    ∃ fixture inherited, registry.get? call.name = some fixture ∧
      fixture.inherited call built = .ok inherited ∧
      Scoped registry client caller network middle (world.store.lookup caller) front call fixture
        built inherited := by
  have hcalls : built.calls = front :=
    calls_of_buildRest registry client caller network front [] built world middle hb
  have hfaith := faithful_of_buildRest registry client caller network front [] built world middle
    nofun hb
  have hgrows := growsTo_of_buildRest registry client caller network hc front [] world middle _ hb
  have haround : middle.store.lookup caller = world.store.lookup caller :=
    funext fun key => world.lookup_of_growsTo middle hgrows caller key hs
  have hnodup : (built.calls.map Call.identity).Nodup := by
    have hn := hsettled.nodup
    rw [hplan, List.map_append] at hn
    rw [hcalls]
    exact (List.nodup_append.mp hn).1
  obtain ⟨fixture, hf⟩ := hsettled.known call (by simp [hplan])
  obtain ⟨inherited, hi⟩ := exists_inherited registry built call rest fixture
    (by rw [hcalls, ← hplan]; exact hsettled) hf
  have hplaced (dependency : Call) (hd : dependency ∈ fixture.dependencies call.params) :
      dependency.identity ∈ front.map Call.identity :=
    hsettled.behind front call rest hplan dependency ⟨fixture, hf, hd⟩
  refine ⟨fixture, inherited, hf, hi, ?_⟩
  constructor
  case handed =>
    apply handsLast_handed? registry built hfaith hnodup
    exact fun dependency hd => built.exists_outputs? dependency (hcalls ▸ hplaced dependency hd)
  case declared =>
    exact fun dependency hd hname => hands_iff_declares registry front built dependency hcalls
      (hplaced dependency hd) hname
  case opened =>
    intro key
    rw [lookup_openScope caller call built inherited middle fixture hi key, haround]
  case kept =>
    intro outcome after h id hid key
    have hgrown := growsTo_of_buildOne client caller network fixture call inherited middle after
      (hc fixture (mem_of_get? registry _ _ hf)) outcome h
    exact middle.lookup_of_growsTo after hgrown id key hid
  case made =>
    intro made after h key
    exact keys_of_buildOne client caller network fixture call inherited middle after made key h
  case steps =>
    rintro recipe rfl
    obtain ⟨scope, begun, hbegins, hcourse⟩ :=
      exists_beginsIn client caller network call inherited middle recipe
    refine ⟨scope, begun, hbegins, hcourse, ?_⟩
    intro before step behind reached _ hreached
    have hstep := step_of_beginsIn client caller network call built inherited middle recipe hi scope
      begun hbegins before step reached hreached
    rwa [haround] at hstep

/-- Wherever a resolution comes to a build, its scope is as it should be: a step of a recipe sees
what the build has set so far, and below that what its dependencies have handed down and what the
caller saw before the resolution. Of what is set in these scopes, the caller comes to see only what
the calls of the plan declare, and nothing if the resolution fails. -/
theorem builds_are_scoped (calls plan : List Call) (hc : ∀ fixture ∈ registry, fixture.Confined)
    (hs : caller < world.store.length) (hp : registry.plan calls = .ok plan) :
    (∀ front call rest built middle, plan = front ++ call :: rest →
      (buildRest registry client caller [] front).exec network world = (.ok built, middle) →
      ∃ fixture inherited, registry.get? call.name = some fixture ∧
        fixture.inherited call built = .ok inherited ∧
        Scoped registry client caller network middle (world.store.lookup caller) front call fixture
          built inherited) ∧
    ∀ outcome after,
      (buildAll registry client caller calls).exec network world = (outcome, after) →
      ∀ key, (∃ e, outcome = .error e) ∨ ¬ registry.Announces plan key →
        after.store.lookup caller key = world.store.lookup caller key := by
  have hsettled := Registry.settled_of_plan registry calls plan hp
  refine ⟨?_, ?_⟩
  · intro front call rest built middle hplan hb
    exact scoped_of_buildRest registry client caller network world plan hc hs hsettled front call
      rest hplan built middle hb
  · intro outcome after h key hk
    exact lookup_buildAll registry client caller network world hc hs calls plan hp outcome after h
      key hk

end Plan

def greeting : Recipe where
  name := "greeting"
  params := [("who", .str "all")]
  steps := [{ name := "greet", request := .new .get "/\x7b\x7bwho\x7d\x7d/\x7b\x7btoken\x7d\x7d",
              extract := [("who", "status")] }]
  outputs := ["who"]

def farewellOpening : Recipe.Step where
  name := "open"
  request := .new .get "/\x7b\x7bwho\x7d\x7d"
  extract := [("code", "status")]

def farewell : Recipe where
  name := "farewell"
  dependsOn := [⟨"greeting", []⟩]
  params := [("tone", .str "kind")]
  steps := [farewellOpening, { name := "close", request := .new .get "/\x7b\x7bcode\x7d\x7d" }]
  outputs := ["code"]

def farewellCall : Call := ⟨"farewell", [("place", .str "hall")]⟩

def hosts : Registry := [greeting.fixture, farewell.fixture]

def hostClient : Client := .new "http://api.test" 30000

def countingNetwork : Network := fun sent _ => .answered 0 ⟨200 + sent.length, [], []⟩

def hostWorld : World := ⟨[⟨"root", none, [("token", some (.str "t"))]⟩], [], []⟩

def greeted : Except Error Built × World :=
  (buildRest hosts hostClient 0 [] [⟨"greeting", []⟩]).exec countingNetwork hostWorld

def greetedBuilt : Built := greeted.1.toOption.getD []

def farewellInherits : List Outputs :=
  (farewell.fixture.inherited farewellCall greetedBuilt).toOption.getD []

def farewellScope : ScopeId × World :=
  farewell.fixture.openScope farewellCall farewellInherits 0 greeted.2

def farewellBegun : World :=
  ((Recipe.setDefaults ⟨farewell.name, hostClient, farewellScope.1⟩ farewellCall.params
    farewell.params).exec countingNetwork farewellScope.2).2

theorem confined_hosts : ∀ fixture ∈ hosts, fixture.Confined := by
  intro fixture hf
  simp only [hosts, List.mem_cons, List.not_mem_nil, or_false] at hf
  rcases hf with rfl | rfl
  · exact confined_of_contained _ greeting.contained_fixture
  · exact confined_of_contained _ farewell.contained_fixture

theorem greeted_eq : greeted.1 = .ok greetedBuilt :=
  eq_ok_of_toBool greeted.1 [] (by decide +kernel)

theorem exists_farewellReached (scope : ScopeId) (begun : World) (hs : scope = farewellScope.1)
    (hb : begun = farewellBegun) :
    ∃ reached, (Recipe.runSteps ⟨farewell.name, hostClient, scope⟩ [farewellOpening]).exec
      countingNetwork begun = (.ok (), reached) := by
  have hok : ((Recipe.runSteps ⟨farewell.name, hostClient, farewellScope.1⟩
      [farewellOpening]).exec countingNetwork farewellBegun).1.toBool = true := by decide +kernel
  rw [← hs, ← hb] at hok
  obtain ⟨_, h⟩ := ok_of_toBool _ hok
  exact ⟨_, Prod.ext h rfl⟩

/-- The opening is the second request that is sent, and its status is taken. -/
theorem capture_farewellOpening (scope : ScopeId) (begun after : World) (response : Response)
    (hs : scope = farewellScope.1) (hb : begun = farewellBegun)
    (h : (Context.request ⟨farewell.name, hostClient, scope⟩ farewellOpening.name
      farewellOpening.request farewellOpening.expect).exec countingNetwork begun =
        (.ok response, after)) :
    (response.capture? "status").map Json.splice = some "201" := by
  have hcaptured : ((Context.request ⟨farewell.name, hostClient, farewellScope.1⟩
      farewellOpening.name farewellOpening.request farewellOpening.expect).exec countingNetwork
        farewellBegun).1.toOption.bind (fun response =>
          (response.capture? "status").map Json.splice) = some "201" := by
    decide +kernel
  rw [← hs, ← hb, h] at hcaptured
  exact hcaptured

/-- The second step of a farewell sees what the first one has taken, a parameter, a default, what
the greeting has handed down, and the token of the caller. -/
theorem builds_are_scoped_farewell :
    (∀ fixture ∈ hosts, fixture.Confined) ∧
    hosts.plan [farewellCall] = .ok [⟨"greeting", []⟩, farewellCall] ∧
    greeted.1 = .ok greetedBuilt ∧
    ∃ scope begun reached,
      BeginsIn hostClient 0 countingNetwork farewell farewellCall farewellInherits greeted.2 scope
        begun ∧
      (Recipe.runSteps ⟨farewell.name, hostClient, scope⟩ [farewellOpening]).exec countingNetwork
        begun = (.ok (), reached) ∧
      let shown (key : String) := (reached.store.lookup scope key).map Json.splice
      shown "code" = some "201" ∧ shown "place" = some "hall" ∧ shown "tone" = some "kind" ∧
        shown "who" = some "200" ∧ shown "token" = some "t" := by
  have hplan : hosts.plan [farewellCall] = .ok [⟨"greeting", []⟩, farewellCall] := rfl
  obtain ⟨hbuilds, -⟩ := builds_are_scoped hosts hostClient 0 countingNetwork hostWorld
    [farewellCall] _ confined_hosts (by decide) hplan
  obtain ⟨fixture, inherited, hf, hi, hscoped⟩ := hbuilds [⟨"greeting", []⟩] farewellCall []
    greetedBuilt greeted.2 rfl (Prod.ext greeted_eq rfl)
  obtain rfl : fixture = farewell.fixture := (Option.some.inj hf).symm
  obtain rfl : inherited = farewellInherits := by
    rw [farewellInherits, hi]
    rfl
  obtain ⟨scope, begun, hbegins, -, hsteps⟩ := hscoped.steps farewell rfl
  have hscope : scope = farewellScope.1 := hbegins.1
  have hbegun : begun = farewellBegun := by
    have hdefaults := hbegins.2
    rw [hscope] at hdefaults
    exact (congrArg Prod.snd hdefaults).symm
  obtain ⟨reached, hreached⟩ := exists_farewellReached scope begun hscope hbegun
  obtain ⟨done, hdone, hanswered, hsees, -⟩ := hsteps [farewellOpening] _ [] reached rfl hreached
  obtain ⟨response, rfl⟩ : ∃ response, done = [(farewellOpening, response)] := by
    obtain ⟨entry, rfl⟩ := List.length_eq_one_iff.mp (by simpa using congrArg List.length hdone)
    exact ⟨entry.2, by rw [← List.singleton_inj.mp hdone]⟩
  obtain ⟨middle, answered, hmiddle, hanswer⟩ := hanswered.sent [] farewellOpening response [] rfl
  obtain rfl : begun = middle := congrArg Prod.snd hmiddle
  have hcode := capture_farewellOpening scope begun answered response hscope hbegun hanswer
  have hwho : (greetedBuilt.handed? farewell.dependsOn "who").map Json.splice = some "200" := by
    decide +kernel
  obtain ⟨code, hcapture, hcode⟩ := Option.map_eq_some_iff.mp hcode
  obtain ⟨who, hhanded, hwho⟩ := Option.map_eq_some_iff.mp hwho
  refine ⟨confined_hosts, hplan, greeted_eq, scope, begun, reached, hbegins, hreached, ?_⟩
  simp only [hsees]
  refine ⟨?_, rfl, rfl, ?_, rfl⟩
  · have htaken : Recipe.taken? [(farewellOpening, response)] "code" = some code := by
      show List.findSome? _ [_] = _
      rw [List.findSome?_singleton]
      exact hcapture
    rw [Recipe.sees?, htaken, Option.some_or, Option.map_some, hcode]
  · have hsaw : farewell.sees? farewellCall greetedBuilt (hostWorld.store.lookup 0)
        [(farewellOpening, response)] "who" = (greetedBuilt.handed? farewell.dependsOn "who").or
          (hostWorld.store.lookup 0 "who") := rfl
    rw [hsaw, hhanded, Option.some_or, Option.map_some, hwho]

end Fixture

end ApiTrial
