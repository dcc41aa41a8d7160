import ApiTrial.Proofs.BuildAtomic
import Mathlib.Data.List.Nodup

/-! Which required keys a build finds. Its scope sees what the caller sees, what its direct
dependencies declare, and the parameters of its call; nothing else that the plan produces is there
before the plan is written down. With fixtures that can be depended on, a plan is built exactly if
every call of it finds what it requires. -/
namespace ApiTrial

namespace Registry

/-- A call of a plan, with the given calls in front of it, requires a key that is not among those
set at the start. -/
structure Demands (registry : Registry) (seeded : List String) (plan front : List Fixture.Call)
    (call : Fixture.Call) (key : String) : Prop where
  placed : ∃ rest, plan = front ++ call :: rest
  required : ∃ fixture, registry.get? call.name = some fixture ∧ key ∈ fixture.requires
  unset : key ∉ seeded

/-- A call gives a key as a parameter, or one of the calls in front of it that it needs directly
declares the key. -/
def Supplies (registry : Registry) (front : List Fixture.Call) (call : Fixture.Call)
    (key : String) : Prop :=
  key ∈ call.params.keys ∨ ∃ dependency c, registry.Needs call dependency ∧ c ∈ front ∧
    c.identity = dependency.identity ∧ registry.Declares c key

end Registry

namespace Fixture

theorem Outputs.mem_keys_retain_iff (keys : List String) (outputs : Outputs) (key : String) :
    key ∈ (outputs.retain keys).keys ↔ key ∈ keys ∧ key ∈ outputs.keys := by
  simp only [Outputs.retain, Table.keys, List.mem_map, List.mem_filter, List.contains_iff_mem]
  constructor
  · rintro ⟨entry, ⟨hm, hk⟩, rfl⟩
    exact ⟨hk, entry, hm, rfl⟩
  · rintro ⟨hk, entry, hm, rfl⟩
    exact ⟨entry, ⟨hm, hk⟩, rfl⟩

theorem keys_of_declared (fixture : Fixture) (produced outputs : Outputs) (key : String)
    (h : fixture.declared produced = .ok outputs) : key ∈ outputs.keys ↔ key ∈ fixture.outputs := by
  rw [declared] at h
  split at h
  · cases h
  · rename_i hn
    cases h
    rw [Outputs.mem_keys_retain_iff, and_iff_left_iff_imp]
    intro hk
    have hc : produced.contains key = true := by simpa using List.find?_eq_none.mp hn key hk
    exact (Table.contains_iff produced key).mp hc

theorem keys_of_buildOne (client : Client) (caller : ScopeId) (network : Network)
    (fixture : Fixture) (call : Call) (inherited : List Outputs) (world after : World)
    (outputs : Outputs) (key : String)
    (h : (buildOne client caller fixture call inherited).exec network world =
      (.ok outputs, after)) : key ∈ outputs.keys ↔ key ∈ fixture.outputs := by
  rw [buildOne] at h
  obtain ⟨scope, w, _, h1⟩ := Trial.exec_bind_ok _ _ _ _ _ _ h
  obtain ⟨missing, w', _, h2⟩ := Trial.exec_bind_ok _ _ _ _ _ _ h1
  cases missing with
  | some k => cases h2
  | none =>
    obtain ⟨produced, w'', _, h3⟩ := Trial.exec_bind_ok _ _ _ _ _ _ h2
    rw [Trial.exec_ofExcept, Prod.mk.injEq] at h3
    exact keys_of_declared fixture produced outputs key h3.1

/-- What the scope of a build holds before the build begins, on top of what the caller sees. -/
theorem layer_openScope (fixture : Fixture) (call : Call) (inherited : List Outputs)
    (caller : ScopeId) (world : World) (key : String) :
    Layer ((∃ outputs ∈ inherited, key ∈ outputs.keys) ∨ key ∈ call.params.keys)
      (fun v => (∃ outputs ∈ inherited, (key, v) ∈ outputs) ∨ (key, v) ∈ call.params)
      (world.store.lookup caller key)
      ((fixture.openScope call inherited caller world).2.store.lookup
        (fixture.openScope call inherited caller world).1 key) := by
  have hl : world.store.length <
      (world.store.isolate caller (scopeName fixture.name)).1.length := Nat.lt_succ_self _
  have hinherited := Store.layer_foldl_merge
    (world.store.isolate caller (scopeName fixture.name)).1 world.store.length inherited key hl
  have hparams := Store.layer_merge
    (inherited.foldl (fun store outputs => Store.merge store world.store.length outputs)
      (world.store.isolate caller (scopeName fixture.name)).1)
    world.store.length call.params key (by rwa [Store.length_foldl_merge])
  rw [Store.lookup_isolate] at hinherited
  exact hinherited.stack hparams

/-- What the scope of a build sees before the build begins. -/
theorem has_openScope_iff (fixture : Fixture) (call : Call) (inherited : List Outputs)
    (caller : ScopeId) (world : World) (key : String) :
    (fixture.openScope call inherited caller world).2.store.has
        (fixture.openScope call inherited caller world).1 key = true ↔
      key ∈ call.params.keys ∨ (∃ outputs ∈ inherited, key ∈ outputs.keys) ∨
        world.store.has caller key = true := by
  have hlayer := (layer_openScope fixture call inherited caller world key).isSome_iff
  rw [or_comm (b := key ∈ call.params.keys), or_assoc] at hlayer
  exact hlayer

theorem lt_openScope (fixture : Fixture) (call : Call) (inherited : List Outputs)
    (caller : ScopeId) (world : World) :
    (fixture.openScope call inherited caller world).1 <
      (fixture.openScope call inherited caller world).2.store.length := by
  show world.store.length < List.length (Store.merge _ _ _)
  rw [Store.length_merge, Store.length_foldl_merge]
  exact Nat.lt_succ_self _

def requirementUnmet (name key : String) : Error :=
  .fixtureFailed name s!"required environment key '{key}' is not set"

/-- Builds succeed and produce all that they promise wherever all that they require is set. -/
def Dependable (client : Client) (network : Network) (fixture : Fixture) : Prop :=
  ∀ (scope : Nat) (params : Params) (world : World), scope < world.store.length →
    (∀ key ∈ fixture.requires, world.store.has scope key = true) →
    ∃ produced after,
      (fixture.build ⟨fixture.name, client, scope⟩ params).exec network world =
        (.ok produced, after) ∧
      ∀ key ∈ fixture.outputs, produced.contains key = true

def fixed (name : String) (requires : List String) (needs : List Call) (values : Outputs) :
    Fixture where
  name := name
  dependencies := fun _ => needs
  requires := requires
  outputs := values.keys
  build := fun _ _ => pure values

theorem confined_fixed (name : String) (requires : List String) (needs : List Call)
    (values : Outputs) : (fixed name requires needs values).Confined :=
  fun _ _ _ _ => Trial.keeps_pure _ _ _ values True.intro

theorem dependable_fixed (client : Client) (network : Network) (name : String)
    (requires : List String) (needs : List Call) (values : Outputs) :
    (fixed name requires needs values).Dependable client network :=
  fun _ _ world _ _ => ⟨values, world, rfl, fun key hk => (Table.contains_iff values key).mpr hk⟩

section One
variable (client : Client) (caller : ScopeId) (network : Network) (fixture : Fixture) (call : Call)
  (inherited : List Outputs) (world : World)

theorem exec_buildOne_of_missing (key : String)
    (hm : fixture.missingKey? (fixture.openScope call inherited caller world).1
      (fixture.openScope call inherited caller world).2 = some key) :
    (buildOne client caller fixture call inherited).exec network world =
      (.error (requirementUnmet fixture.name key),
        (fixture.openScope call inherited caller world).2) := by
  rw [buildOne, Trial.exec_bind_of_ok _ _ _ _ _ _ (Trial.exec_update _ _ _),
    Trial.exec_bind_of_ok _ _ _ _ _ _ (Trial.exec_read _ _ _), hm]
  rfl

/-- A build on which one may depend goes well once it finds what it requires. -/
theorem exec_buildOne_of_dependable (hd : fixture.Dependable client network)
    (hm : fixture.missingKey? (fixture.openScope call inherited caller world).1
      (fixture.openScope call inherited caller world).2 = none) :
    ∃ outputs after,
      (buildOne client caller fixture call inherited).exec network world =
        (.ok outputs, after) := by
  have hr : ∀ key ∈ fixture.requires,
      (fixture.openScope call inherited caller world).2.store.has
        (fixture.openScope call inherited caller world).1 key = true := by
    simpa [missingKey?] using hm
  obtain ⟨produced, after, hb, hp⟩ := hd _ call.params _
    (lt_openScope fixture call inherited caller world) hr
  have hn : fixture.outputs.find? (fun key => !produced.contains key) = none := by
    simpa using hp
  have ho : fixture.declared produced = .ok (produced.retain fixture.outputs) := by
    rw [declared, hn]
  refine ⟨produced.retain fixture.outputs, after, ?_⟩
  rw [buildOne, Trial.exec_bind_of_ok _ _ _ _ _ _ (Trial.exec_update _ _ _),
    Trial.exec_bind_of_ok _ _ _ _ _ _ (Trial.exec_read _ _ _), hm,
    Trial.exec_bind_of_ok _ _ _ _ after produced (by rw [Trial.exec_mapError, hb]; rfl), ho]
  rfl

/-- A build of a dependable fixture fails exactly for want of a required key. -/
theorem exec_buildOne_cases (hd : fixture.Dependable client network) :
    (∃ key after, (buildOne client caller fixture call inherited).exec network world =
        (.error (requirementUnmet fixture.name key), after) ∧ key ∈ fixture.requires ∧
        ¬ (key ∈ call.params.keys ∨ (∃ outputs ∈ inherited, key ∈ outputs.keys) ∨
          world.store.has caller key = true)) ∨
      (∀ key ∈ fixture.requires, key ∈ call.params.keys ∨
        (∃ outputs ∈ inherited, key ∈ outputs.keys) ∨ world.store.has caller key = true) ∧
      ∃ outputs after,
        (buildOne client caller fixture call inherited).exec network world =
          (.ok outputs, after) := by
  cases hm : fixture.missingKey? (fixture.openScope call inherited caller world).1
      (fixture.openScope call inherited caller world).2 with
  | some key =>
    refine Or.inl ⟨key, _, exec_buildOne_of_missing client caller network fixture call inherited
      world key hm, List.mem_of_find?_eq_some hm, ?_⟩
    rw [← has_openScope_iff fixture call inherited caller world key]
    simpa using List.find?_some hm
  | none =>
    refine Or.inr ⟨?_, exec_buildOne_of_dependable client caller network fixture call inherited
      world hd hm⟩
    intro key hk
    rw [← has_openScope_iff fixture call inherited caller world key]
    simpa using List.find?_eq_none.mp hm key hk

end One

def Built.Faithful (registry : Registry) (built : Built) : Prop :=
  ∀ entry ∈ built, ∀ key, key ∈ entry.2.keys ↔ registry.Declares entry.1 key

theorem Built.faithful_snoc (registry : Registry) (built : Built) (call : Call)
    (outputs : Outputs) (fixture : Fixture) (hb : built.Faithful registry)
    (hf : registry.get? call.name = some fixture)
    (ho : ∀ key, key ∈ outputs.keys ↔ key ∈ fixture.outputs) :
    Built.Faithful registry (built ++ [(call, outputs)]) := by
  intro entry he key
  rcases List.mem_append.mp he with he | he
  · exact hb entry he key
  · rw [List.mem_singleton.mp he, ho key]
    constructor
    · exact fun hk => ⟨fixture, hf, hk⟩
    · rintro ⟨g, hg, hk⟩
      rw [hf, Option.some.injEq] at hg
      exact hg ▸ hk

theorem lt_commit (scope : Nat) (world reached : World) (built : Built)
    (hs : scope < world.store.length) (hg : world.GrowsTo reached) :
    scope < (commit scope built reached).store.length := by
  show scope < (reached.store.merge scope (built.flatMap (·.2))).length
  rw [Store.length_merge]
  exact Nat.lt_of_lt_of_le hs hg.scopes.length_le

/-- Once all that is built is written to a scope, this sees what the calls declare and what it saw
before. -/
theorem has_commit_iff (registry : Registry) (scope : Nat) (world reached : World) (built : Built)
    (hs : scope < world.store.length) (hg : world.GrowsTo reached) (hf : built.Faithful registry)
    (key : String) :
    (commit scope built reached).store.has scope key = true ↔
      registry.Announces built.calls key ∨ world.store.has scope key = true := by
  have hmade : scope < reached.store.length := Nat.lt_of_lt_of_le hs hg.scopes.length_le
  have hbefore : reached.store.has scope key = world.store.has scope key := by
    rw [Store.has, Store.has, world.lookup_of_growsTo reached hg scope key hs]
  have hwritten : key ∈ (built.flatMap (·.2)).map (·.1) ↔ registry.Announces built.calls key := by
    constructor
    · intro hk
      obtain ⟨slot, hslot, rfl⟩ := List.mem_map.mp hk
      obtain ⟨entry, he, hm⟩ := List.mem_flatMap.mp hslot
      exact ⟨entry.1, List.mem_map_of_mem he, (hf entry he slot.1).mp (List.mem_map_of_mem hm)⟩
    · rintro ⟨call, hcall, hd⟩
      obtain ⟨entry, he, rfl⟩ := List.mem_map.mp hcall
      obtain ⟨slot, hslot, rfl⟩ := List.mem_map.mp ((hf entry he key).mpr hd)
      exact List.mem_map_of_mem (List.mem_flatMap.mpr ⟨entry, he, hslot⟩)
  show (reached.store.merge scope (built.flatMap (·.2))).has scope key = true ↔ _
  rw [Store.has_merge_iff reached.store scope _ key hmade, hwritten, hbefore]

/-- The outputs that a call inherits are those declared by the calls that it needs. -/
theorem mem_inherited_iff (registry : Registry) (built : Built) (call : Call) (fixture : Fixture)
    (inherited : List Outputs) (key : String) (hb : built.Faithful registry)
    (hn : (built.calls.map Call.identity).Nodup) (hf : registry.get? call.name = some fixture)
    (hi : fixture.inherited call built = .ok inherited) :
    (∃ outputs ∈ inherited, key ∈ outputs.keys) ↔
      ∃ dependency c, registry.Needs call dependency ∧ c ∈ built.calls ∧
        c.identity = dependency.identity ∧ registry.Declares c key := by
  have hfind (dependency : Call) (outputs : Outputs)
      (h : built.outputs? dependency = some outputs) :
      ∃ c, (c, outputs) ∈ built ∧ c.identity = dependency.identity := by
    obtain ⟨entry, he, rfl⟩ := Option.map_eq_some_iff.mp h
    exact ⟨entry.1, List.mem_of_find?_eq_some he, by simpa using List.find?_some he⟩
  constructor
  · rintro ⟨outputs, ho, hk⟩
    obtain ⟨dependency, hd, hx⟩ := (mem_iff_of_mapM_eq_ok _ _ _ hi outputs).mp ho
    cases hs : built.outputs? dependency with
    | none => simp [hs] at hx
    | some found =>
      have hfo : found = outputs := by simpa [hs] using hx
      obtain ⟨c, hc, he⟩ := hfind dependency outputs (hfo ▸ hs)
      exact ⟨dependency, c, ⟨fixture, hf, hd⟩, List.mem_map_of_mem hc, he, (hb _ hc key).mp hk⟩
  · rintro ⟨dependency, c, ⟨g, hg, hd⟩, hc, he, hk⟩
    rw [hf, Option.some.injEq] at hg
    obtain ⟨outputs, ho, hx⟩ := ok_of_mapM_eq_ok _ _ _ hi dependency (hg ▸ hd)
    cases hs : built.outputs? dependency with
    | none => simp [hs] at hx
    | some found =>
      have hfo : found = outputs := by simpa [hs] using hx
      obtain ⟨d, hdb, hde⟩ := hfind dependency outputs (hfo ▸ hs)
      have hdc : d = c := List.inj_on_of_nodup_map hn (List.mem_map_of_mem hdb) hc
        (hde.trans he.symm)
      exact ⟨outputs, ho, (hb _ hdb key).mpr (hdc ▸ hk)⟩

section Plan
variable (registry : Registry) (client : Client) (caller : ScopeId) (network : Network)

/-- A plan that is built as a whole is built up to each of its calls. -/
theorem buildRest_append_ok (front rest : List Call) (built built' : Built) (world after : World)
    (h : (buildRest registry client caller built (front ++ rest)).exec network world =
      (.ok built', after)) :
    ∃ between middle,
      (buildRest registry client caller built front).exec network world = (.ok between, middle) ∧
      (buildRest registry client caller between rest).exec network middle = (.ok built', after) := by
  induction front generalizing built world with
  | nil => exact ⟨built, world, rfl, h⟩
  | cons call front ih =>
    obtain ⟨fixture, inherited, outputs, w, hf, hi, ho, hr⟩ :=
      buildRest_cons_ok registry client caller network built built' call _ world after h
    obtain ⟨between, middle, hb, hx⟩ := ih _ _ hr
    refine ⟨between, middle, ?_, hx⟩
    rw [exec_buildRest_cons registry client caller network built call front world fixture inherited
      hf hi, Trial.exec_bind_of_ok _ _ _ _ w outputs ho]
    exact hb

theorem faithful_of_buildRest (plan : List Call) (built built' : Built) (world after : World)
    (hb : built.Faithful registry)
    (h : (buildRest registry client caller built plan).exec network world = (.ok built', after)) :
    built'.Faithful registry := by
  induction plan generalizing built world with
  | nil =>
    rw [buildRest, Trial.exec_pure, Prod.mk.injEq, Except.ok.injEq] at h
    exact h.1 ▸ hb
  | cons call rest ih =>
    obtain ⟨fixture, inherited, outputs, middle, hf, hi, ho, hr⟩ :=
      buildRest_cons_ok registry client caller network built built' call rest world after h
    have hk (key : String) :=
      keys_of_buildOne client caller network fixture call inherited world middle outputs key ho
    exact ih _ _ (built.faithful_snoc registry call outputs fixture hb hf hk) hr

variable (hc : ∀ fixture ∈ registry, fixture.Confined) (plan : List Call) (world : World)
  (seeded : List String) (hs : registry.Settled plan) (hw : caller < world.store.length)
  (hk : ∀ key, key ∈ seeded ↔ world.store.has caller key = true)
include hc hs hw hk

/-- What the scope of a build sees after the calls in front of it are built: what was set at the
start, and what its call supplies. -/
theorem found_iff_supplies (front rest : List Call) (call : Call) (built : Built) (middle : World)
    (fixture : Fixture) (inherited : List Outputs) (key : String)
    (hp : plan = front ++ call :: rest)
    (hb : (buildRest registry client caller [] front).exec network world = (.ok built, middle))
    (hf : registry.get? call.name = some fixture)
    (hi : fixture.inherited call built = .ok inherited) :
    (key ∈ call.params.keys ∨ (∃ outputs ∈ inherited, key ∈ outputs.keys) ∨
        middle.store.has caller key = true) ↔
      key ∈ seeded ∨ registry.Supplies front call key := by
  have hcalls : built.calls = front :=
    calls_of_buildRest registry client caller network front [] built world middle hb
  have hfaith : built.Faithful registry :=
    faithful_of_buildRest registry client caller network front [] built world middle nofun hb
  have hnodup : (built.calls.map Call.identity).Nodup := by
    have hn := hs.nodup
    rw [hp, List.map_append] at hn
    rw [hcalls]
    exact (List.nodup_append.mp hn).1
  have hgrown : world.GrowsTo middle :=
    growsTo_of_buildRest registry client caller network hc front [] world middle _ hb
  have hsees : middle.store.has caller key = true ↔ key ∈ seeded := by
    rw [hk key, Store.has, world.lookup_of_growsTo middle hgrown caller key hw, Store.has]
  rw [hsees, mem_inherited_iff registry built call fixture inherited key hfaith hnodup hf hi, hcalls,
    Registry.Supplies]
  constructor
  · rintro (h | h | h)
    · exact Or.inr (Or.inl h)
    · exact Or.inr (Or.inr h)
    · exact Or.inl h
  · rintro (h | h | h)
    · exact Or.inr (Or.inr h)
    · exact Or.inl h
    · exact Or.inr (Or.inl h)

variable (hd : ∀ fixture ∈ registry, fixture.Dependable client network)
include hd

/-- A plan that is not built has a call with an unmet requirement, and fails for it. -/
theorem demands_of_buildRest_error (after : World) (e : Error)
    (h : (buildRest registry client caller [] plan).exec network world = (.error e, after)) :
    ∃ front call key, registry.Demands seeded plan front call key ∧
      ¬ registry.Supplies front call key ∧ e = requirementUnmet call.name key := by
  obtain ⟨front, call, rest, built, middle, fixture, inherited, hp, hb, hf, hi, ho⟩ :=
    buildRest_error registry client caller network plan [] world after e hs h
  have hdep := hd fixture (mem_of_get? registry _ _ hf)
  rcases exec_buildOne_cases client caller network fixture call inherited middle hdep with
    ⟨key, w, he, hr, hn⟩ | ⟨_, outputs, w, hv⟩
  · rw [found_iff_supplies registry client caller network hc plan world seeded hs hw hk front rest
      call built middle fixture inherited key hp hb hf hi, not_or] at hn
    rw [ho] at he
    cases he
    exact ⟨front, call, key, ⟨⟨rest, hp⟩, ⟨fixture, hf, hr⟩, hn.1⟩, hn.2,
      by rw [Registry.name_of_get? hf]⟩
  · rw [ho] at hv
    cases hv

/-- In a plan that is built, every requirement is met. -/
theorem supplies_of_buildRest_ok (built : Built) (after : World)
    (h : (buildRest registry client caller [] plan).exec network world = (.ok built, after))
    (front : List Call) (call : Call) (key : String)
    (hx : registry.Demands seeded plan front call key) : registry.Supplies front call key := by
  obtain ⟨rest, hp⟩ := hx.placed
  obtain ⟨fixture, hf, hr⟩ := hx.required
  rw [hp] at h
  obtain ⟨between, middle, hb, hy⟩ :=
    buildRest_append_ok registry client caller network front _ [] built world after h
  obtain ⟨g, inherited, outputs, w, hg, hi, ho, _⟩ :=
    buildRest_cons_ok registry client caller network between built call rest middle after hy
  rw [hf, Option.some.injEq] at hg
  subst hg
  have hdep := hd fixture (mem_of_get? registry _ _ hf)
  rcases exec_buildOne_cases client caller network fixture call inherited middle hdep with
    ⟨_, w', he, _⟩ | ⟨hfound, _⟩
  · rw [ho] at he
    cases he
  · have hkey := (found_iff_supplies registry client caller network hc plan world seeded hs hw hk
      front rest call between middle fixture inherited key hp hb hf hi).mp (hfound key hr)
    exact hkey.resolve_left hx.unset

end Plan

end Fixture
end ApiTrial
