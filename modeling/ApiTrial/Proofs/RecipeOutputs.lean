import ApiTrial.Proofs.BuildRequirements

/-! Where the outputs of a recipe come from. A build reads its outputs as it reads any variable, so
a key that its own scope does not hold is read from the caller. A step, a parameter, a default or a
dependency provides a key, and then the output is a value of this build; a declared output that none
of them provides is what the caller happens to hold. -/
namespace ApiTrial

namespace Fixture

namespace Context
variable (context : Context) (network : Network)

/-- A request changes no variable. -/
theorem store_of_request (stage : String) (template : RequestTemplate) (expect : StatusClass)
    (world : World) :
    ((context.request stage template expect).exec network world).2.store = world.store := by
  have hk : Trial.Keeps (fun w => w.store = world.store) (fun _ => True) (fun _ => True)
      (context.request stage template expect) := by
    apply Trial.keeps_bind _ _ (fun _ => True)
    · apply Trial.keeps_mapError _ _ _ (fun _ => True)
      · exact Client.keeps_executeWith _ _ (fun _ _ h => h) (fun _ => True.intro) _ _ _ _
      · exact fun _ _ => True.intro
    · intro response _
      split
      · exact Trial.keeps_pure _ _ _ _ True.intro
      · exact Trial.keeps_throw _ _ _ _ True.intro
  exact (Trial.exec_of_keeps _ _ _ network _ world hk rfl).2

/-- Each output has the value that the scope sees under its key. -/
theorem outputsIn_ok (store : Store) (keys : List String) (outputs : Outputs)
    (h : context.outputsIn store keys = .ok outputs) (key : String) (hk : key ∈ keys) :
    ∃ value, outputs.get? key = some value ∧ store.lookup context.scope key = some value := by
  induction keys generalizing outputs with
  | nil => cases hk
  | cons first rest ih =>
    rw [outputsIn] at h
    cases hl : store.lookup context.scope first with
    | none =>
      rw [hl] at h
      cases h
    | some value =>
      rw [hl] at h
      cases hr : context.outputsIn store rest with
      | error e =>
        rw [hr] at h
        cases h
      | ok others =>
        rw [hr] at h
        cases h
        by_cases he : first = key
        · exact ⟨value, by rw [Table.get?_insert, if_pos he], he ▸ hl⟩
        · rw [Table.get?_insert, if_neg he]
          exact ih others hr ((List.mem_cons.mp hk).resolve_left fun hx => he hx.symm)

end Context
end Fixture

namespace Recipe
variable (context : Fixture.Context) (network : Network)

def Takes (steps : List Step) (begun : World) (key : String) (value : Json) : Prop :=
  ∃ front step rest middle response answered source, steps = front ++ step :: rest ∧
    (runSteps context front).exec network begun = (.ok (), middle) ∧
    (context.request step.name step.request step.expect).exec network middle =
      (.ok response, answered) ∧
    (key, source) ∈ step.extract ∧ response.capture? source = some value

/-- The defaults are a layer of those that the call does not replace. -/
theorem layer_setDefaults (params : Fixture.Params) (defaults : List (String × Json))
    (world after : World) (hs : context.scope < world.store.length)
    (h : (setDefaults context params defaults).exec network world = (.ok (), after)) :
    after.store.length = world.store.length ∧ ∀ key,
      Layer (key ∈ defaults.map (·.1) ∧ key ∉ params.keys)
        (fun v => (key, v) ∈ defaults ∧ key ∉ params.keys)
        (world.store.lookup context.scope key) (after.store.lookup context.scope key) := by
  induction defaults generalizing world with
  | nil =>
    cases h
    exact ⟨rfl, fun key => Layer.of_not (by simp) rfl⟩
  | cons entry rest ih =>
    obtain ⟨k, value⟩ := entry
    rw [setDefaults] at h
    cases hp : params.contains k with
    | true =>
      have hk : k ∈ params.keys := (Table.contains_iff params k).mp hp
      rw [hp] at h
      obtain ⟨hlength, hrest⟩ := ih world hs h
      refine ⟨hlength, ?_⟩
      intro key
      apply (hrest key).mono
      · rw [List.map_cons, List.mem_cons, and_congr_left_iff]
        intro hn
        exact or_iff_right fun he => hn (he ▸ hk)
      · exact fun v hv => hv.imp_left (List.mem_cons_of_mem _)
    | false =>
      have hk : k ∉ params.keys := by
        rw [← Table.contains_iff params k, hp]
        exact Bool.false_ne_true
      rw [hp] at h
      obtain ⟨_, middle, hset, h⟩ := Trial.exec_bind_ok _ _ _ _ _ _ h
      cases hset
      have hlen := Store.length_set world.store context.scope k value
      obtain ⟨hlength, hrest⟩ := ih _ (Nat.lt_of_lt_of_eq hs hlen.symm) h
      refine ⟨hlength.trans hlen, ?_⟩
      intro key
      apply ((Store.layer_set world.store context.scope k key value hs).stack (hrest key)).mono
      · rw [List.map_cons, List.mem_cons]
        constructor
        · exact fun hx => hx.1.imp id fun hr => ⟨hr, hx.2⟩
        · rintro (rfl | hx)
          · exact ⟨Or.inl rfl, hk⟩
          · exact ⟨Or.inr hx.1, hx.2⟩
      · rintro v (⟨rfl, rfl⟩ | hx)
        · exact ⟨List.mem_cons_self, hk⟩
        · exact hx.imp_left (List.mem_cons_of_mem _)

/-- What a step takes from its response is a layer over what was seen before. -/
theorem layer_extractAll (stage : String) (response : Response) (sources : List (String × String))
    (world after : World) (hs : context.scope < world.store.length)
    (h : (extractAll context stage response sources).exec network world = (.ok (), after)) :
    after.store.length = world.store.length ∧ ∀ key,
      Layer (key ∈ sources.map (·.1))
        (fun v => ∃ source, (key, source) ∈ sources ∧ response.capture? source = some v)
        (world.store.lookup context.scope key) (after.store.lookup context.scope key) := by
  induction sources generalizing world with
  | nil =>
    cases h
    exact ⟨rfl, fun key => Layer.of_not (by simp) rfl⟩
  | cons entry rest ih =>
    obtain ⟨k, source⟩ := entry
    rw [extractAll] at h
    obtain ⟨value, found, hv, h⟩ := Trial.exec_bind_ok _ _ _ _ _ _ h
    obtain ⟨_, middle, hset, h⟩ := Trial.exec_bind_ok _ _ _ _ _ _ h
    cases hset
    rw [Trial.exec_ofExcept, Prod.mk.injEq, Fixture.Context.extract] at hv
    obtain ⟨hv, rfl⟩ := hv
    have hcapture : response.capture? source = some value := by
      cases hc : response.capture? source with
      | none =>
        rw [hc] at hv
        cases hv
      | some v =>
        rw [hc] at hv
        exact congrArg some (Except.ok.inj hv)
    have hlen := Store.length_set world.store context.scope k value
    obtain ⟨hlength, hrest⟩ := ih _ (Nat.lt_of_lt_of_eq hs hlen.symm) h
    refine ⟨hlength.trans hlen, ?_⟩
    intro key
    apply ((Store.layer_set world.store context.scope k key value hs).stack (hrest key)).mono
    · rw [List.map_cons, List.mem_cons]
    · rintro v (⟨rfl, rfl⟩ | ⟨other, ho, hx⟩)
      · exact ⟨source, List.mem_cons_self, hcapture⟩
      · exact ⟨other, List.mem_cons_of_mem _ ho, hx⟩

/-- What the steps take is the uppermost layer of the scope of a build. -/
theorem layer_runSteps (steps : List Step) (world after : World)
    (hs : context.scope < world.store.length)
    (h : (runSteps context steps).exec network world = (.ok (), after)) :
    after.store.length = world.store.length ∧ ∀ key,
      Layer (∃ step ∈ steps, key ∈ step.extract.keys) (Takes context network steps world key)
        (world.store.lookup context.scope key) (after.store.lookup context.scope key) := by
  induction steps generalizing world with
  | nil =>
    cases h
    exact ⟨rfl, fun key => Layer.of_not (by simp) rfl⟩
  | cons step rest ih =>
    rw [runSteps] at h
    obtain ⟨response, answered, hr, h⟩ := Trial.exec_bind_ok _ _ _ _ _ _ h
    obtain ⟨_, middle, he, h⟩ := Trial.exec_bind_ok _ _ _ _ _ _ h
    have hstore := context.store_of_request network step.name step.request step.expect world
    rw [hr] at hstore
    obtain ⟨hlen, hfirst⟩ := layer_extractAll context network step.name response step.extract
      answered middle (by rwa [hstore]) he
    rw [hstore] at hlen hfirst
    obtain ⟨hlength, hrest⟩ := ih middle (Nat.lt_of_lt_of_eq hs hlen.symm) h
    refine ⟨hlength.trans hlen, ?_⟩
    intro key
    apply ((hfirst key).stack (hrest key)).mono
    · rw [List.exists_mem_cons_iff]
      rfl
    · -- What the rest takes is taken behind this step.
      rintro value (⟨source, hm, hc⟩ | ⟨front, other, behind, w, r, w', source, rfl, hx⟩)
      · exact ⟨[], step, rest, world, response, answered, source, rfl, rfl, hr, hm, hc⟩
      · obtain ⟨hfront, hother⟩ := hx
        refine ⟨step :: front, other, behind, w, r, w', source, rfl, ?_, hother⟩
        rw [runSteps, Trial.exec_bind_of_ok _ _ _ _ answered response hr,
          Trial.exec_bind_of_ok _ _ _ _ middle () he]
        exact hfront

end Recipe

namespace Recipe
variable (recipe : Recipe) (network : Network)

/-- A key is provided for a call: by a step, a parameter, a default, or a dependency that is built
in front of the call. -/
def Provides (front : Fixture.Built) (call : Fixture.Call) (key : String) : Prop :=
  (∃ step ∈ recipe.steps, key ∈ step.extract.keys) ∨ key ∈ call.params.keys ∨
    key ∈ recipe.params.keys ∨
    ∃ dependency ∈ recipe.dependsOn, ∃ outputs, front.outputs? dependency = some outputs ∧
      key ∈ outputs.keys

/-- A value under a key that belongs to the build of a call, whose steps begin in a world. -/
inductive Owns (context : Fixture.Context) (front : Fixture.Built) (call : Fixture.Call)
    (begun : World) (key : String) (value : Json) : Prop where
  | taken (h : Takes context network recipe.steps begun key value)
  | given (h : (key, value) ∈ call.params)
  | default (h : (key, value) ∈ recipe.params) (hn : key ∉ call.params.keys)
  | inherited (dependency : Fixture.Call) (outputs : Fixture.Outputs)
      (hd : dependency ∈ recipe.dependsOn) (ho : front.outputs? dependency = some outputs)
      (h : (key, value) ∈ outputs)

theorem mem_inherited_iff (front : Fixture.Built) (call : Fixture.Call)
    (inherited : List Fixture.Outputs) (outputs : Fixture.Outputs)
    (h : recipe.fixture.inherited call front = .ok inherited) :
    outputs ∈ inherited ↔
      ∃ dependency ∈ recipe.dependsOn, front.outputs? dependency = some outputs := by
  rw [mem_iff_of_mapM_eq_ok _ _ _ h outputs]
  apply exists_congr
  intro dependency
  apply and_congr_right
  intro _
  cases front.outputs? dependency with
  | none => exact iff_of_false nofun nofun
  | some found => rw [Except.ok.injEq, Option.some.injEq]

/-- The layers of the scope of a build provide all that is provided. A default that the call
replaces is not a layer, and its key is provided by the call. -/
theorem provides_iff (front : Fixture.Built) (call : Fixture.Call)
    (inherited : List Fixture.Outputs) (key : String)
    (h : recipe.fixture.inherited call front = .ok inherited) :
    recipe.Provides front call key ↔
      (((∃ outputs ∈ inherited, key ∈ outputs.keys) ∨ key ∈ call.params.keys) ∨
          key ∈ recipe.params.keys ∧ key ∉ call.params.keys) ∨
        ∃ step ∈ recipe.steps, key ∈ step.extract.keys := by
  have hinherited := fun outputs => recipe.mem_inherited_iff front call inherited outputs h
  have hdependency : (∃ dependency ∈ recipe.dependsOn, ∃ outputs,
      front.outputs? dependency = some outputs ∧ key ∈ outputs.keys) ↔
      ∃ outputs ∈ inherited, key ∈ outputs.keys := by
    constructor
    · rintro ⟨dependency, hd, outputs, ho, hx⟩
      exact ⟨outputs, (hinherited outputs).mpr ⟨dependency, hd, ho⟩, hx⟩
    · rintro ⟨outputs, ho, hx⟩
      obtain ⟨dependency, hd, ho⟩ := (hinherited outputs).mp ho
      exact ⟨dependency, hd, outputs, ho, hx⟩
  have hor (step given default dependency : Prop) :
      step ∨ given ∨ default ∨ dependency ↔
        ((dependency ∨ given) ∨ default ∧ ¬ given) ∨ step := by
    by_cases given <;> tauto
  rw [Provides, hdependency]
  exact hor _ _ _ _

end Recipe

namespace Fixture

theorem Outputs.get?_retain (keys : List String) (outputs : Outputs) (key : String)
    (hk : key ∈ keys) : (outputs.retain keys).get? key = outputs.get? key := by
  rw [Outputs.retain]
  induction outputs with
  | nil => rfl
  | cons entry rest ih =>
    rw [List.filter_cons, Table.get?]
    by_cases he : entry.1 = key
    · have hkeep : keys.contains entry.1 = true := by simpa [he] using hk
      rw [if_pos hkeep, if_pos he, Table.get?, if_pos he]
    · rw [if_neg he, ← ih]
      split
      · rw [Table.get?, if_neg he]
      · rfl

theorem get?_of_declared (fixture : Fixture) (produced outputs : Outputs) (key : String)
    (h : fixture.declared produced = .ok outputs) (hk : key ∈ fixture.outputs) :
    outputs.get? key = produced.get? key := by
  rw [declared] at h
  split at h
  · cases h
  · cases h
    exact Outputs.get?_retain fixture.outputs produced key hk

section One
variable (client : Client) (caller : ScopeId) (network : Network) (recipe : Recipe) (call : Call)
  (front : Built) (inherited : List Outputs) (world : World)

/-- The steps of a recipe begin in a world: the scope of the build is opened and has the defaults. -/
def BeginsIn (scope : ScopeId) (begun : World) : Prop :=
  scope = (recipe.fixture.openScope call inherited caller world).1 ∧
  (Recipe.setDefaults ⟨recipe.name, client, scope⟩ call.params recipe.params).exec network
    (recipe.fixture.openScope call inherited caller world).2 = (.ok (), begun)

/-- The outputs of a recipe are read from what its build provides, over what the caller sees. -/
theorem layer_buildOne (after : World) (made : Outputs)
    (hi : recipe.fixture.inherited call front = .ok inherited)
    (h : (buildOne client caller recipe.fixture call inherited).exec network world =
      (.ok made, after)) :
    ∃ scope begun, BeginsIn client caller network recipe call inherited world scope begun ∧
      ∀ key ∈ recipe.outputs, ∃ value, made.get? key = some value ∧
        Layer (recipe.Provides front call key)
          (recipe.Owns network ⟨recipe.name, client, scope⟩ front call begun key)
          (world.store.lookup caller key) (some value) := by
  rw [buildOne] at h
  obtain ⟨scope, opened, hopen, h⟩ := Trial.exec_bind_ok _ _ _ _ _ _ h
  obtain ⟨missing, _, hread, h⟩ := Trial.exec_bind_ok _ _ _ _ _ _ h
  cases hopen
  cases hread
  split at h
  · cases h
  obtain ⟨produced, last, hbuild, hdeclared⟩ := Trial.exec_bind_ok _ _ _ _ _ _ h
  rw [Trial.exec_ofExcept, Prod.mk.injEq] at hdeclared
  replace hbuild := Trial.exec_mapError_ok _ _ _ _ _ _ hbuild
  have hscope := lt_openScope recipe.fixture call inherited caller world
  obtain ⟨_, begun, hdefaults, hbuild⟩ := Trial.exec_bind_ok _ _ _ _ _ _ hbuild
  obtain ⟨_, behind, hsteps, hread⟩ := Trial.exec_bind_ok _ _ _ _ _ _ hbuild
  obtain ⟨hlength, hlower⟩ := Recipe.layer_setDefaults _ network _ _ _ _ hscope hdefaults
  obtain ⟨_, hupper⟩ := Recipe.layer_runSteps _ network _ _ _
    (Nat.lt_of_lt_of_eq hscope hlength.symm) hsteps
  refine ⟨_, begun, ⟨rfl, hdefaults⟩, ?_⟩
  intro key hk
  rw [Context.outputs, Trial.exec_readExcept, Prod.mk.injEq] at hread
  obtain ⟨value, hproduced, hseen⟩ := Context.outputsIn_ok _ _ _ produced hread.1 key hk
  refine ⟨value, (get?_of_declared _ produced made key hdeclared.1 hk).trans hproduced, ?_⟩
  rw [← hseen]
  have hopen := layer_openScope recipe.fixture call inherited caller world key
  apply ((hopen.stack (hlower key)).stack (hupper key)).mono
  · exact recipe.provides_iff front call inherited key hi
  · rintro v (((⟨outputs, ho, hx⟩ | hx) | ⟨hx, hn⟩) | hx)
    · obtain ⟨dependency, hd, ho⟩ := (recipe.mem_inherited_iff front call inherited outputs hi).mp ho
      exact .inherited dependency outputs hd ho hx
    · exact .given hx
    · exact .default hx hn
    · exact .taken hx

end One

section Plan
variable (registry : Registry) (client : Client) (caller : ScopeId) (network : Network)

/-- Everything that is built of a plan comes from a build of its own, behind all that is built in
front of it. -/
theorem entry_of_buildRest (plan : List Call) (built built' : Built) (world after : World)
    (h : (buildRest registry client caller built plan).exec network world = (.ok built', after)) :
    ∃ more, built' = built ++ more ∧
      ∀ front call made rest, more = front ++ (call, made) :: rest →
        ∃ middle fixture inherited behind,
          (buildRest registry client caller built (Built.calls front)).exec network world =
            (.ok (built ++ front), middle) ∧
          registry.get? call.name = some fixture ∧
          fixture.inherited call (built ++ front) = .ok inherited ∧
          (buildOne client caller fixture call inherited).exec network middle =
            (.ok made, behind) := by
  induction plan generalizing built world with
  | nil =>
    cases h
    refine ⟨[], (List.append_nil _).symm, ?_⟩
    intro front call made rest hx
    simp at hx
  | cons first others ih =>
    obtain ⟨fixture, inherited, outputs, middle, hf, hi, ho, hr⟩ :=
      buildRest_cons_ok registry client caller network built built' first others world after h
    obtain ⟨more, hmore, hentry⟩ := ih _ _ hr
    have hall : built' = built ++ (first, outputs) :: more := by
      rw [hmore, List.append_assoc, List.singleton_append]
    refine ⟨(first, outputs) :: more, hall, ?_⟩
    intro front call made rest hx
    cases front with
    | nil =>
      obtain ⟨he, -⟩ := List.cons.inj hx
      obtain ⟨rfl, rfl⟩ := Prod.mk.inj he
      rw [List.append_nil]
      exact ⟨world, fixture, inherited, middle, rfl, hf, hi, ho⟩
    | cons entry front =>
      obtain ⟨rfl, hrest⟩ := List.cons.inj hx
      obtain ⟨w, g, j, behind, hb, hg, hj, hm⟩ := hentry front call made rest hrest
      rw [List.append_assoc, List.singleton_append] at hb hj
      refine ⟨w, g, j, behind, ?_, hg, hj, hm⟩
      have hcalls : Built.calls ((first, outputs) :: front) = first :: Built.calls front := rfl
      rw [hcalls, exec_buildRest_cons registry client caller network built first _ world fixture
        inherited hf hi, Trial.exec_bind_of_ok _ _ _ _ middle outputs ho]
      exact hb

/-- What a resolution commits is what it has built; every other variable of the caller stays. -/
theorem lookup_commit (built : Built) (world reached : World) (key : String)
    (hg : world.GrowsTo reached) (hs : caller < world.store.length) :
    (commit caller built reached).store.lookup caller key =
      ((Table.ofEntries (built.flatMap (·.2))).get? key).or (world.store.lookup caller key) := by
  have hr : caller < reached.store.length := Nat.lt_of_lt_of_le hs hg.scopes.length_le
  have hm : (commit caller built reached).store = reached.store.merge caller (built.flatMap (·.2)) :=
    rfl
  rw [hm, Store.lookup_merge _ _ _ _ hr, world.lookup_of_growsTo reached hg caller key hs]

/-- Wherever a resolution succeeds, each declared output of each recipe in it has a value, which is
returned and committed. The value is a step's, a parameter, a default or a dependency's if one of
these provides the key. If none does, it is the value that the caller held under the key before. -/
theorem outputs_of_recipes (calls : List Call) (world after : World) (outputs : List Outputs)
    (hc : ∀ fixture ∈ registry, fixture.Confined) (hs : caller < world.store.length)
    (h : (buildAll registry client caller calls).exec network world = (.ok outputs, after)) :
    ∃ plan built, registry.plan calls = .ok plan ∧ built.calls = plan ∧
      requested calls built = .ok outputs ∧
      (∀ key, after.store.lookup caller key =
        ((Table.ofEntries (built.flatMap (·.2))).get? key).or (world.store.lookup caller key)) ∧
      ∀ front call made rest recipe, built = front ++ (call, made) :: rest →
        registry.get? call.name = some recipe.fixture →
        ∃ middle inherited scope begun,
          (buildRest registry client caller [] (Built.calls front)).exec network world =
            (.ok front, middle) ∧
          recipe.fixture.inherited call front = .ok inherited ∧
          BeginsIn client caller network recipe call inherited middle scope begun ∧
          ∀ key ∈ recipe.outputs, ∃ value, made.get? key = some value ∧
            (recipe.Provides front call key →
              recipe.Owns network ⟨recipe.name, client, scope⟩ front call begun key value) ∧
            (¬ recipe.Provides front call key → world.store.lookup caller key = some value) := by
  rcases buildAll_cases registry client caller network calls world after _ h with
    ⟨_, _, ho, _⟩ | ⟨_, _, _, ho, _⟩ | ⟨plan, built, reached, values, hp, ho, hb, hr, rfl⟩
  · cases ho
  · cases ho
  cases ho
  have hcalls := calls_of_buildRest registry client caller network plan [] built world reached hb
  have hgrows := growsTo_of_buildRest registry client caller network hc plan [] world reached _ hb
  refine ⟨plan, built, hp, hcalls, hr,
    fun key => lookup_commit caller built world reached key hgrows hs, ?_⟩
  intro front call made rest recipe hx hf
  obtain ⟨more, hmore, hentry⟩ :=
    entry_of_buildRest registry client caller network plan [] built world reached hb
  rw [List.nil_append] at hmore
  obtain ⟨middle, fixture, inherited, behind, hfront, hg, hi, hmade⟩ :=
    hentry front call made rest (hmore.symm.trans hx)
  rw [List.nil_append] at hfront hi
  have hfixture : fixture = recipe.fixture := Option.some.inj (hg.symm.trans hf)
  rw [hfixture] at hi hmade
  obtain ⟨scope, begun, hbegins, hall⟩ :=
    layer_buildOne client caller network recipe call front inherited middle behind made hi hmade
  refine ⟨middle, inherited, scope, begun, hfront, hi, hbegins, ?_⟩
  intro key hk
  obtain ⟨value, hvalue, hlayer⟩ := hall key hk
  refine ⟨value, hvalue, ?_, ?_⟩
  · intro hprovided
    obtain ⟨own, howns, he⟩ := hlayer.own hprovided
    rw [Option.some.inj he]
    exact howns
  · intro hleft
    have hgrows' := growsTo_of_buildRest registry client caller network hc _ [] world middle _ hfront
    rw [hlayer.below hleft, world.lookup_of_growsTo middle hgrows' caller key hs]

end Plan

def session : Recipe where
  name := "session"
  steps := [{ name := "ping", request := .new .get "/ping" }]
  outputs := ["token"]

/-- The build gives out the token that the caller held already, and its fixture comes to own it. -/
theorem outputs_of_recipes_leftover :
    let client : Client := .new "http://api.test" 30000
    let network : Network := fun _ _ => .answered 0 ⟨200, [], []⟩
    let world : World := ⟨[⟨"root", none, [("token", some (.str "old"))]⟩], [], []⟩
    ∃ outputs after, (buildAll [session.fixture] client 0 [⟨"session", []⟩]).exec network world =
        (.ok [outputs], after) ∧
      ¬ session.Provides [] ⟨"session", []⟩ "token" ∧
      outputs.get? "token" = some (.str "old") ∧
      after.owners = [("root::token", "session")] := by
  intro client network world
  have hok : ((buildAll [session.fixture] client 0 [⟨"session", []⟩]).exec network world).1.toBool =
      true := by decide +kernel
  have howners : ((buildAll [session.fixture] client 0 [⟨"session", []⟩]).exec network
      world).2.owners = [("root::token", "session")] := by decide +kernel
  have hconfined : ∀ fixture ∈ [session.fixture], fixture.Confined := by
    intro fixture hf
    rw [List.mem_singleton.mp hf]
    exact confined_of_contained _ session.contained_fixture
  have hnot : ¬ session.Provides [] ⟨"session", []⟩ "token" := by
    simp [Recipe.Provides, session, Table.keys]
  rcases h : (buildAll [session.fixture] client 0 [⟨"session", []⟩]).exec network world with
    ⟨outcome, after⟩
  rw [h] at hok howners
  cases outcome with
  | error e => cases hok
  | ok all =>
    obtain ⟨plan, built, hp, hcalls, hreturned, -, hentry⟩ :=
      outputs_of_recipes [session.fixture] client 0 network [⟨"session", []⟩] world after all
        hconfined (by decide) h
    cases hp
    obtain ⟨⟨call, made⟩, rfl, rfl⟩ := List.map_eq_singleton_iff.mp hcalls
    cases hreturned
    obtain ⟨_, _, _, _, _, _, _, hall⟩ := hentry [] _ _ [] session rfl rfl
    obtain ⟨value, hvalue, -, hleft⟩ := hall "token" (by simp [session])
    have hold : some value = some (.str "old") := (hleft hnot).symm
    exact ⟨_, after, rfl, hnot, hvalue.trans hold, howners⟩

end Fixture

end ApiTrial
