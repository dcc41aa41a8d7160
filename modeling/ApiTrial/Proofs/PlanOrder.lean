import ApiTrial.Fixture.Plan
import ApiTrial.Fixture.Ticketing
import Mathlib.Logic.Relation

/-! Plans as topological orders. A plan grows at its end only, and a call is put there once all that
it needs stands in front of it. The calls of the chain are what keeps an identity from being put
twice: none of them is added while it is still waited for. -/
namespace ApiTrial.Registry
open Relation Fixture

def Needs (registry : Registry) (call dependency : Call) : Prop :=
  ∃ fixture, registry.get? call.name = some fixture ∧
    dependency ∈ fixture.dependencies call.params

def Declares (registry : Registry) (call : Call) (key : String) : Prop :=
  ∃ fixture, registry.get? call.name = some fixture ∧ key ∈ fixture.outputs

/-- One of some calls declares a key. -/
def Announces (registry : Registry) (calls : List Call) (key : String) : Prop :=
  ∃ c ∈ calls, registry.Declares c key

structure Settled (registry : Registry) (order : List Call) : Prop where
  known : ∀ call ∈ order, ∃ fixture, registry.get? call.name = some fixture
  nodup : (order.map Call.identity).Nodup
  behind : ∀ before call after, order = before ++ call :: after →
    ∀ dependency, registry.Needs call dependency →
      dependency.identity ∈ before.map Call.identity

theorem settled_nil (registry : Registry) : registry.Settled [] where
  known := by simp
  nodup := by simp
  behind := by simp

/-- A known call of a new identity may follow once all that it needs is there. -/
theorem settled_snoc (registry : Registry) (order : List Call) (call : Call)
    (hs : registry.Settled order) (hk : ∃ fixture, registry.get? call.name = some fixture)
    (hn : call.identity ∉ order.map Call.identity)
    (hd : ∀ dependency, registry.Needs call dependency →
      dependency.identity ∈ order.map Call.identity) :
    registry.Settled (order ++ [call]) where
  known := by
    intro c hc
    rcases List.mem_append.mp hc with hc | hc
    · exact hs.known c hc
    · rw [List.mem_singleton.mp hc]
      exact hk
  nodup := by
    rw [List.map_append, List.nodup_append]
    refine ⟨hs.nodup, by simp, ?_⟩
    intro a ha b hb hab
    have hb' : b = call.identity := by simpa using hb
    exact hn (hb' ▸ hab ▸ ha)
  behind := by
    intro before c after he dependency hneeds
    rcases List.eq_nil_or_concat after with rfl | ⟨front, last, rfl⟩
    · have hx : order ++ [call] = before ++ [c] := by simpa using he
      obtain ⟨h1, h2⟩ := List.append_inj' hx rfl
      have hc : call = c := by simpa using h2
      rw [← h1]
      exact hd dependency (hc ▸ hneeds)
    · have hx : order ++ [call] = (before ++ c :: front) ++ [last] := by simpa using he
      exact hs.behind before c front (List.append_inj' hx rfl).1 dependency hneeds

structure Extends (registry : Registry) (chain calls order order' : List Call) : Prop where
  grown : order <+: order'
  reached : ∀ call ∈ calls, call.identity ∈ order'.map Call.identity
  spared : ∀ call ∈ chain, call.identity ∈ order'.map Call.identity →
    call.identity ∈ order.map Call.identity
  settled : registry.Settled order → registry.Settled order'
  needed : ∀ c ∈ order', c ∈ order ∨ ∃ call ∈ calls, ReflTransGen registry.Needs call c

theorem extends_refl (registry : Registry) (chain order : List Call) :
    registry.Extends chain [] order order where
  grown := List.prefix_refl order
  reached := by simp
  spared := fun _ _ h => h
  settled := fun h => h
  needed := fun _ h => Or.inl h

theorem extends_of_mem (registry : Registry) (chain order : List Call) (call : Call)
    (h : call.identity ∈ order.map Call.identity) :
    registry.Extends chain [call] order order :=
  { extends_refl registry chain order with
    reached := by simpa using h
    needed := fun _ h => Or.inl h }

theorem mem_identities_of_prefix (a : String) (order order' : List Call) (h : order <+: order')
    (ha : a ∈ order.map Call.identity) : a ∈ order'.map Call.identity :=
  (h.map Call.identity).subset ha

/-- An order extended for one call and then for others is extended for all of them. -/
theorem extends_cons (registry : Registry) (chain calls order middle order' : List Call)
    (call : Call) (hx : registry.Extends chain [call] order middle)
    (hy : registry.Extends chain calls middle order') :
    registry.Extends chain (call :: calls) order order' where
  grown := hx.grown.trans hy.grown
  reached := by
    intro c hc
    rcases List.mem_cons.mp hc with rfl | hc
    · exact mem_identities_of_prefix _ _ _ hy.grown (hx.reached c (by simp))
    · exact hy.reached c hc
  spared := fun c hc h => hx.spared c hc (hy.spared c hc h)
  settled := fun h => hy.settled (hx.settled h)
  needed := by
    intro c hc
    rcases hy.needed c hc with hc | ⟨d, hd, hr⟩
    · rcases hx.needed c hc with hc | ⟨d, hd, hr⟩
      · exact Or.inl hc
      · exact Or.inr ⟨call, by simp, by simpa [List.mem_singleton.mp hd] using hr⟩
    · exact Or.inr ⟨d, by simp [hd], hr⟩

/-- A call is put behind the calls that it needs. Its own identity is free until then, since it is
part of the chain below which they are planned. -/
theorem extends_snoc (registry : Registry) (chain order order' : List Call) (call : Call)
    (fixture : Fixture) (hf : registry.get? call.name = some fixture)
    (hn : call.identity ∉ order.map Call.identity)
    (hc : call.identity ∉ chain.map Call.identity)
    (hx : registry.Extends (chain ++ [call]) (fixture.dependencies call.params) order order') :
    registry.Extends chain [call] order (order' ++ [call]) where
  grown := hx.grown.trans (List.prefix_append _ _)
  reached := by simp
  spared := by
    intro c hcc h
    rw [List.map_append, List.mem_append] at h
    rcases h with h | h
    · exact hx.spared c (by simp [hcc]) h
    · have he : c.identity = call.identity := by simpa using h
      exact absurd (List.mem_map.mpr ⟨c, hcc, he⟩) hc
  settled := by
    intro hs
    apply settled_snoc registry order' call (hx.settled hs) ⟨fixture, hf⟩
    · intro h
      exact hn (hx.spared call (by simp) h)
    · intro dependency ⟨g, hg, hd⟩
      rw [hf, Option.some.injEq] at hg
      exact hx.reached dependency (hg ▸ hd)
  needed := by
    intro c hcc
    rcases List.mem_append.mp hcc with hcc | hcc
    · rcases hx.needed c hcc with h | ⟨d, hd, hr⟩
      · exact Or.inl h
      · exact Or.inr ⟨call, by simp, ReflTransGen.head ⟨fixture, hf, hd⟩ hr⟩
    · exact Or.inr ⟨call, by simp, by rw [List.mem_singleton.mp hcc]⟩

/-- If each call extends an order, so do several. -/
theorem extends_of_foldlM (registry : Registry) (chain : List Call)
    (f : List Call → Call → Except Error (List Call))
    (hf : ∀ order order' call, f order call = .ok order' →
      registry.Extends chain [call] order order')
    (calls order order' : List Call) (h : calls.foldlM f order = .ok order') :
    registry.Extends chain calls order order' := by
  induction calls generalizing order with
  | nil =>
    have he : order = order' := by simpa [pure, Except.pure] using h
    exact he ▸ extends_refl registry chain order
  | cons call rest ih =>
    rw [List.foldlM_cons] at h
    cases hm : f order call with
    | error e => simp [hm, bind, Except.bind] at h
    | ok middle =>
      rw [hm] at h
      exact extends_cons registry chain rest order middle order' call (hf order middle call hm)
        (ih middle h)

theorem get?_of_get (registry : Registry) (name : String) (fixture : Fixture)
    (h : registry.get name = .ok fixture) : registry.get? name = some fixture := by
  unfold get at h
  split at h
  · rename_i g hg
    rw [hg, Except.ok.inj h]
  · cases h

theorem any_identity_iff (order : List Call) (call : Call) :
    (order.any fun c => c.identity == call.identity) = true ↔
      call.identity ∈ order.map Call.identity := by
  simp [List.any_eq_true]

theorem get_of_get? (registry : Registry) (name : String) (fixture : Fixture)
    (h : registry.get? name = some fixture) : registry.get name = .ok fixture := by
  rw [get, h]

inductive Turned (left : Nat) (call : Call) : List Call → List Call → Prop
  | back (before : List Call) (first : Call) (cycle : List Call)
      (hi : first.identity = call.identity) :
      Turned left call (before ++ first :: cycle) (first :: cycle ++ [call])
  | away (chain : List Call) (hl : left = 0) : Turned left call chain (chain ++ [call])

/-- What is left of a chain when it is cut in front of the first call of an identity. -/
theorem turned_of_any (left : Nat) (chain : List Call) (call : Call)
    (h : (chain.any fun c => c.identity == call.identity) = true) :
    Turned left call chain
      ((chain.dropWhile fun c => c.identity != call.identity) ++ [call]) := by
  have hcut : ∃ before first cycle, chain = before ++ first :: cycle ∧
      first.identity = call.identity ∧
      (chain.dropWhile fun c => c.identity != call.identity) = first :: cycle := by
    induction chain with
    | nil => cases h
    | cons c rest ih =>
      by_cases hc : c.identity = call.identity
      · exact ⟨[], c, rest, rfl, hc, by simp [hc]⟩
      · obtain ⟨before, first, cycle, hrest, hi, hd⟩ := ih (by simpa [hc] using h)
        exact ⟨c :: before, first, cycle, by rw [hrest, List.cons_append], hi, by simp [hc, hd]⟩
  obtain ⟨before, first, cycle, hchain, hi, hd⟩ := hcut
  rw [hd, hchain]
  exact .back before first cycle hi

/-- All that a visit can come to: the call is there already, a cycle is closed or the chain is too
long, its fixture is unknown, or the call is put behind all that it needs. -/
theorem visit_cases (registry : Registry) (left : Nat) (chain order : List Call) (call : Call)
    (outcome : Except Error (List Call))
    (h : registry.visit left chain order call = outcome) :
    (call.identity ∈ order.map Call.identity ∧ outcome = .ok order) ∨
    (∃ told, Turned left call chain told ∧
      outcome = .error (.dependencyCycle (told.map Call.name))) ∨
    (registry.get? call.name = none ∧ outcome = .error (.unknownFixture call.name)) ∨
    ∃ shorter fixture, left = shorter + 1 ∧ registry.get? call.name = some fixture ∧
      call.identity ∉ order.map Call.identity ∧ call.identity ∉ chain.map Call.identity ∧
      outcome = ((fixture.dependencies call.params).foldlM
        (registry.visit shorter (chain ++ [call])) order).map (· ++ [call]) := by
  rw [← any_identity_iff, ← any_identity_iff]
  -- A chain that may not grow any further is told as a cycle before the fixture is looked up.
  cases left with
  | zero =>
    rw [visit] at h
    split at h
    · rename_i hm
      exact Or.inl ⟨hm, h.symm⟩
    · split at h
      · rename_i hc
        exact Or.inr (Or.inl ⟨_, turned_of_any 0 chain call hc, h.symm⟩)
      · exact Or.inr (Or.inl ⟨_, .away chain rfl, h.symm⟩)
  | succ shorter =>
    rw [visit] at h
    split at h
    · rename_i hm
      exact Or.inl ⟨hm, h.symm⟩
    · rename_i hn
      split at h
      · rename_i hc
        exact Or.inr (Or.inl ⟨_, turned_of_any (shorter + 1) chain call hc, h.symm⟩)
      · rename_i hc
        cases hg : registry.get? call.name with
        | none =>
          have hx : registry.get call.name = .error (.unknownFixture call.name) := by rw [get, hg]
          rw [hx] at h
          exact Or.inr (Or.inr (Or.inl ⟨rfl, h.symm⟩))
        | some fixture =>
          rw [get_of_get? registry call.name fixture hg] at h
          exact Or.inr (Or.inr (Or.inr ⟨shorter, fixture, rfl, rfl, hn, hc, h.symm⟩))

/-- What a visit makes of an order. The induction is on how much longer the chain may grow. -/
theorem extends_of_visit (registry : Registry) (left : Nat) (chain order order' : List Call)
    (call : Call) (h : registry.visit left chain order call = .ok order') :
    registry.Extends chain [call] order order' := by
  induction left generalizing chain order order' call with
  | zero =>
    rcases visit_cases registry 0 chain order call _ h with
      ⟨hm, ho⟩ | ⟨_, _, ho⟩ | ⟨_, ho⟩ | ⟨_, _, hl, _⟩
    · exact Except.ok.inj ho ▸ extends_of_mem registry chain order call hm
    · cases ho
    · cases ho
    · cases hl
  | succ left ih =>
    rcases visit_cases registry (left + 1) chain order call _ h with
      ⟨hm, ho⟩ | ⟨_, _, ho⟩ | ⟨_, ho⟩ | ⟨_, fixture, hl, hf, hn, hc, ho⟩
    · exact Except.ok.inj ho ▸ extends_of_mem registry chain order call hm
    · cases ho
    · cases ho
    · cases hl
      cases hm : (fixture.dependencies call.params).foldlM
          (registry.visit left (chain ++ [call])) order with
      | error e =>
        rw [hm] at ho
        cases ho
      | ok middle =>
        rw [hm] at ho
        cases ho
        -- What the call needs is visited below a chain that ends in the call, with one step less
        -- to go, so the induction applies to each of these visits.
        apply extends_snoc registry chain order middle call fixture hf hn hc
        exact extends_of_foldlM registry _ _ (fun o o' c => ih _ o o' c) _ _ _ hm

theorem extends_of_plan (registry : Registry) (calls order : List Call)
    (h : registry.plan calls = .ok order) : registry.Extends [] calls [] order :=
  extends_of_foldlM registry [] _
    (fun o o' c => extends_of_visit registry depthLimit [] o o' c) calls [] order h

theorem settled_of_plan (registry : Registry) (calls order : List Call)
    (h : registry.plan calls = .ok order) : registry.Settled order :=
  (extends_of_plan registry calls order h).settled (settled_nil registry)

/-- A plan holds every call that is asked for and nothing that none of them needs, no identity
twice, and whatever a call needs stands in front of it. -/
theorem plan_is_topological (registry : Registry) (calls order : List Call)
    (h : registry.plan calls = .ok order) :
    (order.map Call.identity).Nodup ∧
    (∀ call ∈ calls, call.identity ∈ order.map Call.identity) ∧
    (∀ before call after, order = before ++ call :: after →
      ∃ fixture, registry.get? call.name = some fixture ∧
        ∀ dependency ∈ fixture.dependencies call.params,
          dependency.identity ∈ before.map Call.identity) ∧
    ∀ c ∈ order, ∃ call ∈ calls, ReflTransGen registry.Needs call c := by
  have hx := extends_of_plan registry calls order h
  have hs := settled_of_plan registry calls order h
  refine ⟨hs.nodup, hx.reached, ?_, ?_⟩
  · intro before call after he
    obtain ⟨fixture, hf⟩ := hs.known call (by simp [he])
    refine ⟨fixture, hf, ?_⟩
    intro dependency hd
    exact hs.behind before call after he dependency ⟨fixture, hf, hd⟩
  · intro c hc
    exact (hx.needed c hc).resolve_left (by simp)

/-- A paid cart asked for in front of the event that it needs. -/
theorem plan_is_topological_paidCart :
    ∃ order, plan Ticketing.fixtures [⟨"create_paid_cart", [("quantity", .int 6)]⟩,
        ⟨"create_event", []⟩] = .ok order ∧
      order.map Call.name = ["create_event", "create_paid_cart"] ∧
      (order.map Call.identity).Nodup ∧
      ∀ c ∈ order, ∃ call ∈ [⟨"create_paid_cart", [("quantity", .int 6)]⟩, ⟨"create_event", []⟩],
        ReflTransGen (Needs Ticketing.fixtures) call c := by
  refine ⟨_, rfl, rfl, ?_⟩
  have h := plan_is_topological Ticketing.fixtures
    [⟨"create_paid_cart", [("quantity", .int 6)]⟩, ⟨"create_event", []⟩] _ rfl
  exact ⟨h.1, h.2.2.2⟩

end ApiTrial.Registry
