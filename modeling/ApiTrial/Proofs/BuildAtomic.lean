import ApiTrial.Proofs.BuildConfined
import ApiTrial.Proofs.PlanFailure

/-! A plan is built as a whole or not at all. Its calls are built one after the other, and the first
build that fails is the last thing that happens. Since a plan is settled, each call finds its fixture
and what its dependencies produced, so a failing build is all that can go wrong. -/
namespace ApiTrial.Fixture

def Built.calls (built : Built) : List Call := built.map (·.1)

theorem Built.calls_snoc (built : Built) (call : Call) (outputs : Outputs) :
    Built.calls (built ++ [(call, outputs)]) = built.calls ++ [call] := by
  simp [Built.calls]

theorem Built.exists_outputs? (built : Built) (call : Call)
    (h : call.identity ∈ built.calls.map Call.identity) :
    ∃ outputs, built.outputs? call = some outputs := by
  have hs : (built.find? fun entry => entry.1.identity == call.identity).isSome = true := by
    rw [List.find?_isSome]
    simpa [Built.calls] using h
  obtain ⟨entry, he⟩ := Option.isSome_iff_exists.mp hs
  exact ⟨entry.2, by rw [Built.outputs?, he, Option.map_some]⟩

section Building
variable (registry : Registry) (client : Client) (caller : ScopeId) (network : Network)

/-- In front of a call of a settled order stands all that it needs. -/
theorem exists_inherited (built : Built) (call : Call) (rest : List Call) (fixture : Fixture)
    (hs : registry.Settled (built.calls ++ call :: rest))
    (hf : registry.get? call.name = some fixture) :
    ∃ inherited, fixture.inherited call built = .ok inherited := by
  apply exists_mapM_eq_ok
  intro dependency hd
  have hb := hs.behind built.calls call rest rfl dependency ⟨fixture, hf, hd⟩
  obtain ⟨outputs, ho⟩ := built.exists_outputs? dependency hb
  exact ⟨outputs, by rw [ho]⟩

/-- A call that finds what it needs is built, and then the rest of the plan. -/
theorem exec_buildRest_cons (built : Built) (call : Call) (rest : List Call) (world : World)
    (fixture : Fixture) (inherited : List Outputs) (hf : registry.get? call.name = some fixture)
    (hi : fixture.inherited call built = .ok inherited) :
    (buildRest registry client caller built (call :: rest)).exec network world =
      (buildOne client caller fixture call inherited >>= fun outputs =>
        buildRest registry client caller (built ++ [(call, outputs)]) rest).exec network world := by
  have hg := Registry.get_of_get? registry call.name fixture hf
  rw [buildRest, Trial.exec_bind_of_ok _ _ _ _ world fixture (by rw [hg]; rfl),
    Trial.exec_bind_of_ok _ _ _ _ world inherited (by rw [hi]; rfl)]

/-- A plan that is built has its first call built, and then the rest behind it. -/
theorem buildRest_cons_ok (built built' : Built) (call : Call) (rest : List Call)
    (world after : World)
    (h : (buildRest registry client caller built (call :: rest)).exec network world =
      (.ok built', after)) :
    ∃ fixture inherited outputs middle, registry.get? call.name = some fixture ∧
      fixture.inherited call built = .ok inherited ∧
      (buildOne client caller fixture call inherited).exec network world = (.ok outputs, middle) ∧
      (buildRest registry client caller (built ++ [(call, outputs)]) rest).exec network middle =
        (.ok built', after) := by
  rw [buildRest] at h
  obtain ⟨fixture, w, hf, hx⟩ := Trial.exec_bind_ok _ _ _ _ _ _ h
  obtain ⟨inherited, w', hi, hy⟩ := Trial.exec_bind_ok _ _ _ _ _ _ hx
  obtain ⟨outputs, middle, ho, hr⟩ := Trial.exec_bind_ok _ _ _ _ _ _ hy
  rw [Trial.exec_ofExcept, Prod.mk.injEq] at hf hi
  rw [← hi.2, ← hf.2] at ho
  have hg := Registry.get?_of_get registry _ _ hf.1
  exact ⟨fixture, inherited, outputs, middle, hg, hi.1, ho, hr⟩

theorem calls_of_buildRest (plan : List Call) (built built' : Built) (world after : World)
    (h : (buildRest registry client caller built plan).exec network world = (.ok built', after)) :
    built'.calls = built.calls ++ plan := by
  induction plan generalizing built world with
  | nil =>
    have hb : built = built' := by
      rw [buildRest, Trial.exec_pure, Prod.mk.injEq, Except.ok.injEq] at h
      exact h.1
    rw [hb, List.append_nil]
  | cons call rest ih =>
    obtain ⟨_, _, outputs, middle, _, _, _, hr⟩ :=
      buildRest_cons_ok registry client caller network built built' call rest world after h
    rw [ih _ _ hr, Built.calls_snoc, List.append_assoc, List.singleton_append]

/-- A settled plan fails at one of its calls: those in front of it are built, and the last that
happens is that its own build fails. -/
theorem buildRest_error (plan : List Call) (built : Built) (world after : World) (e : Error)
    (hs : registry.Settled (built.calls ++ plan))
    (h : (buildRest registry client caller built plan).exec network world = (.error e, after)) :
    ∃ front call rest built' middle fixture inherited, plan = front ++ call :: rest ∧
      (buildRest registry client caller built front).exec network world = (.ok built', middle) ∧
      registry.get? call.name = some fixture ∧ fixture.inherited call built' = .ok inherited ∧
      (buildOne client caller fixture call inherited).exec network middle = (.error e, after) := by
  induction plan generalizing built world with
  | nil => cases h
  | cons call rest ih =>
    obtain ⟨fixture, hf⟩ := hs.known call (by simp)
    obtain ⟨inherited, hi⟩ := exists_inherited registry built call rest fixture hs hf
    have hcons (tail : List Call) :=
      exec_buildRest_cons registry client caller network built call tail world fixture inherited hf hi
    rw [hcons rest] at h
    rcases Trial.exec_bind_error _ _ _ _ _ _ h with h | ⟨outputs, middle, ho, h⟩
    · exact ⟨[], call, rest, built, world, fixture, inherited, rfl, rfl, hf, hi, h⟩
    · have hs' : registry.Settled (Built.calls (built ++ [(call, outputs)]) ++ rest) := by
        rw [Built.calls_snoc, List.append_assoc, List.singleton_append]
        exact hs
      obtain ⟨front, c, after', built', m, f, i, rfl, hb, hx⟩ := ih _ _ hs' h
      refine ⟨call :: front, c, after', built', m, f, i, rfl, ?_, hx⟩
      rw [hcons front, Trial.exec_bind_of_ok _ _ _ _ middle outputs ho]
      exact hb

/-- Once a plan is built, the outputs of every call that was asked for are there. -/
theorem exists_requested (calls plan : List Call) (built : Built)
    (hp : registry.plan calls = .ok plan) (hb : built.calls = plan) :
    ∃ outputs, requested calls built = .ok outputs := by
  apply exists_mapM_eq_ok
  intro call hc
  have hr := (Registry.extends_of_plan registry calls plan hp).reached call hc
  obtain ⟨outputs, ho⟩ := built.exists_outputs? call (hb ▸ hr)
  exact ⟨outputs, by rw [ho]⟩

theorem exec_buildAll_of_plan_error (calls : List Call) (world : World) (e : Error)
    (hp : registry.plan calls = .error e) :
    (buildAll registry client caller calls).exec network world = (.error e, world) := by
  rw [buildAll, hp]
  exact Trial.exec_bind_of_error _ _ _ _ _ _ rfl

theorem exec_buildAll_of_error (calls plan : List Call) (world after : World) (e : Error)
    (hp : registry.plan calls = .ok plan)
    (hb : (buildRest registry client caller [] plan).exec network world = (.error e, after)) :
    (buildAll registry client caller calls).exec network world = (.error e, after) := by
  rw [buildAll, hp, Trial.exec_bind_of_ok _ _ _ _ world plan rfl]
  exact Trial.exec_bind_of_error _ _ _ _ _ _ hb

theorem exec_buildAll_of_ok (calls plan : List Call) (world reached : World) (built : Built)
    (hp : registry.plan calls = .ok plan)
    (hb : (buildRest registry client caller [] plan).exec network world = (.ok built, reached)) :
    ∃ outputs, requested calls built = .ok outputs ∧
      (buildAll registry client caller calls).exec network world =
        (.ok outputs, commit caller built reached) := by
  have hc := calls_of_buildRest registry client caller network plan [] built world reached hb
  obtain ⟨outputs, ho⟩ := exists_requested registry calls plan built hp hc
  refine ⟨outputs, ho, ?_⟩
  rw [buildAll, hp, Trial.exec_bind_of_ok _ _ _ _ world plan rfl,
    Trial.exec_bind_of_ok _ _ _ _ reached built hb,
    Trial.exec_bind_of_ok _ _ _ _ (commit caller built reached) () rfl, ho]
  rfl

/-- Builds that fail in their own name make the failure of a plan tell which call it was. -/
theorem buildRest_error_of_contained (hc : ∀ fixture ∈ registry, fixture.Contained)
    (plan : List Call) (world after : World) (e : Error) (hs : registry.Settled plan)
    (h : (buildRest registry client caller [] plan).exec network world = (.error e, after)) :
    ∃ front call rest built middle fixture inherited reason, plan = front ++ call :: rest ∧
      (buildRest registry client caller [] front).exec network world = (.ok built, middle) ∧
      registry.get? call.name = some fixture ∧ fixture.inherited call built = .ok inherited ∧
      (buildOne client caller fixture call inherited).exec network middle = (.error e, after) ∧
      e = .fixtureFailed call.name reason := by
  obtain ⟨front, call, rest, built, middle, fixture, inherited, hp, hb, hf, hi, ho⟩ :=
    buildRest_error registry client caller network plan [] world after e hs h
  have hk := keeps_buildOne_of_contained middle client caller fixture call inherited
    (hc fixture (mem_of_get? registry _ _ hf))
  have hx := (Trial.exec_of_keeps _ _ _ network _ middle hk middle.growsTo_refl).1
  rw [ho] at hx
  obtain ⟨reason, he⟩ := hx
  rw [Registry.name_of_get? hf] at he
  exact ⟨front, call, rest, built, middle, fixture, inherited, reason, hp, hb, hf, hi, ho, he⟩

/-- The three ways in which building calls can end. -/
theorem buildAll_cases (calls : List Call) (world after : World)
    (outcome : Except Error (List Outputs))
    (h : (buildAll registry client caller calls).exec network world = (outcome, after)) :
    (∃ e, registry.plan calls = .error e ∧ outcome = .error e ∧ after = world) ∨
    (∃ plan e, registry.plan calls = .ok plan ∧ outcome = .error e ∧
      (buildRest registry client caller [] plan).exec network world = (.error e, after)) ∨
    ∃ plan built reached outputs, registry.plan calls = .ok plan ∧ outcome = .ok outputs ∧
      (buildRest registry client caller [] plan).exec network world = (.ok built, reached) ∧
      requested calls built = .ok outputs ∧ after = commit caller built reached := by
  cases hp : registry.plan calls with
  | error e =>
    rw [exec_buildAll_of_plan_error registry client caller network calls world e hp] at h
    cases h
    exact Or.inl ⟨e, rfl, rfl, rfl⟩
  | ok plan =>
    rcases hb : (buildRest registry client caller [] plan).exec network world with ⟨r, reached⟩
    cases r with
    | error e =>
      rw [exec_buildAll_of_error registry client caller network calls plan world reached e hp hb]
        at h
      cases h
      exact Or.inr (Or.inl ⟨plan, e, rfl, rfl, hb⟩)
    | ok built =>
      obtain ⟨outputs, ho, hx⟩ :=
        exec_buildAll_of_ok registry client caller network calls plan world reached built hp hb
      rw [hx] at h
      cases h
      exact Or.inr (Or.inr ⟨plan, built, reached, outputs, rfl, rfl, hb, ho, rfl⟩)

/-- Calls that are not built leave nothing but scopes that nobody sees. -/
theorem growsTo_of_buildAll_error (hc : ∀ fixture ∈ registry, fixture.Confined)
    (calls : List Call) (world after : World) (e : Error)
    (h : (buildAll registry client caller calls).exec network world = (.error e, after)) :
    world.GrowsTo after := by
  rcases buildAll_cases registry client caller network calls world after _ h with
    ⟨_, _, _, rfl⟩ | ⟨plan, _, _, _, hb⟩ | ⟨_, _, _, _, _, ho, _⟩
  · exact after.growsTo_refl
  · exact growsTo_of_buildRest registry client caller network hc plan [] world after _ hb
  · cases ho

/-- Calls that are not built have no plan, or fail at one of its calls in the name of that call. -/
theorem buildAll_error (hc : ∀ fixture ∈ registry, fixture.Contained) (calls : List Call)
    (world after : World) (e : Error)
    (h : (buildAll registry client caller calls).exec network world = (.error e, after)) :
    (registry.plan calls = .error e ∧ after = world) ∨
      ∃ front call rest built middle fixture inherited reason,
        registry.plan calls = .ok (front ++ call :: rest) ∧
        (buildRest registry client caller [] front).exec network world = (.ok built, middle) ∧
        registry.get? call.name = some fixture ∧ fixture.inherited call built = .ok inherited ∧
        (buildOne client caller fixture call inherited).exec network middle = (.error e, after) ∧
        e = .fixtureFailed call.name reason := by
  rcases buildAll_cases registry client caller network calls world after _ h with
    ⟨_, hp, he, rfl⟩ | ⟨plan, _, hp, he, hb⟩ | ⟨_, _, _, _, _, ho, _⟩
  · cases he
    exact Or.inl ⟨hp, rfl⟩
  · cases he
    have hs := Registry.settled_of_plan registry calls plan hp
    obtain ⟨front, call, rest, built, middle, fixture, inherited, reason, rfl, hx⟩ :=
      buildRest_error_of_contained registry client caller network hc plan world after e hs hb
    exact Or.inr ⟨front, call, rest, built, middle, fixture, inherited, reason, hp, hx⟩
  · cases ho

theorem buildAll_ne_internal (hc : ∀ fixture ∈ registry, fixture.Contained) (calls : List Call)
    (world : World) (reason : String) :
    ((buildAll registry client caller calls).exec network world).1 ≠ .error (.internal reason) := by
  intro h
  rcases buildAll_error registry client caller network hc calls world _ _ (Prod.ext h rfl) with
    ⟨hp, _⟩ | ⟨_, _, _, _, _, _, _, _, _, _, _, _, _, he⟩
  · rcases Registry.error_of_plan registry calls _ hp with ⟨_, he⟩ | ⟨_, he⟩ <;> cases he
  · cases he

/-- A single call never fails for want of its own outputs. -/
theorem buildCall_ne_internal (hc : ∀ fixture ∈ registry, fixture.Contained) (call : Call)
    (world : World) (reason : String) :
    ((buildCall registry client caller call).exec network world).1 ≠ .error (.internal reason) := by
  intro h
  have hx : (buildCall registry client caller call).exec network world =
    (.error (.internal reason), _) := Prod.ext h rfl
  rw [buildCall] at hx
  rcases Trial.exec_bind_error _ _ _ _ _ _ hx with ha | ⟨outputs, middle, ha, hs⟩
  · exact buildAll_ne_internal registry client caller network hc [call] world reason (by rw [ha])
  · rcases buildAll_cases registry client caller network [call] world middle _ ha with
      ⟨_, _, ho, _⟩ | ⟨_, _, _, ho, _⟩ | ⟨_, built, _, values, _, ho, _, hv, _⟩
    · cases ho
    · cases ho
    · -- The outputs of one call are a list of one entry, which `single` finds.
      cases ho
      have hl := ((mapM_eq_ok_iff _ _ _).mp hv).length_eq
      obtain ⟨value, rfl⟩ := List.length_eq_one_iff.mp hl.symm
      cases hs

end Building

/-- Calls of standard fixtures that are not all built leave the variables of every scope and the
owners of all keys as they were. Either the calls cannot be planned and nothing is sent, or a build
fails, the failure names its call, and nothing happens after that build. -/
theorem buildAll_is_atomic (registry : Registry) (client : Client) (caller : ScopeId)
    (network : Network) (calls : List Call) (world : World) (hr : registry.IsStandard) :
    (∀ e after, (buildAll registry client caller calls).exec network world = (.error e, after) →
      (∀ id < world.store.length, after.store.snapshot id = world.store.snapshot id ∧
        ∀ key, after.store.lookup id key = world.store.lookup id key) ∧
      after.owners = world.owners ∧
      ((registry.plan calls = .error e ∧ after.sent = world.sent ∧
          ((∃ name, e = .unknownFixture name) ∨ ∃ names, e = .dependencyCycle names)) ∨
        ∃ front call rest built middle fixture inherited reason,
          registry.plan calls = .ok (front ++ call :: rest) ∧
          (buildRest registry client caller [] front).exec network world = (.ok built, middle) ∧
          registry.get? call.name = some fixture ∧ fixture.inherited call built = .ok inherited ∧
          (buildOne client caller fixture call inherited).exec network middle = (.error e, after) ∧
          e = .fixtureFailed call.name reason)) ∧
    (∀ reason,
      ((buildAll registry client caller calls).exec network world).1 ≠ .error (.internal reason)) ∧
    ∀ call reason,
      ((buildCall registry client caller call).exec network world).1 ≠ .error (.internal reason) := by
  have hc := Registry.contained_of_isStandard registry hr
  refine ⟨?_, buildAll_ne_internal registry client caller network hc calls world,
    fun call => buildCall_ne_internal registry client caller network hc call world⟩
  intro e after h
  have hg := growsTo_of_buildAll_error registry client caller network
    (fun fixture hf => confined_of_contained fixture (hc fixture hf)) calls world after e h
  refine ⟨?_, hg.owners, ?_⟩
  · intro id hid
    exact ⟨Store.snapshot_of_suffix world.store after.store hg.scopes id hid,
      fun key => world.lookup_of_growsTo after hg id key hid⟩
  · rcases buildAll_error registry client caller network hc calls world after e h with
      ⟨hp, rfl⟩ | hx
    · exact Or.inl ⟨hp, rfl, Registry.error_of_plan registry calls e hp⟩
    · exact Or.inr hx

/-- A paid cart for a caller without a token: the event that it needs is not built, nor is the cart
begun. -/
theorem buildAll_is_atomic_without_token :
    ∃ e after, (buildAll Ticketing.fixtures (.new "" 0) 0 [⟨"create_paid_cart", []⟩]).exec
        .unreachable ⟨[⟨"root", none, []⟩], [], []⟩ = (.error e, after) ∧
      (∀ key, after.store.lookup 0 key = none) ∧ after.owners = [] ∧ after.sent = [] ∧
      e = .fixtureFailed "create_event"
        "required environment key 'org_member_token' is not set" := by
  have h := buildAll_is_atomic Ticketing.fixtures (.new "" 0) 0 .unreachable
    [⟨"create_paid_cart", []⟩] ⟨[⟨"root", none, []⟩], [], []⟩ fun _ hf => Or.inl hf
  obtain ⟨hl, ho, _⟩ := h.1 _ _ rfl
  exact ⟨_, _, rfl, (hl 0 (by decide)).2, ho, rfl, rfl⟩

end ApiTrial.Fixture
