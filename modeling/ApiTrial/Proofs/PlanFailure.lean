import ApiTrial.Fixture.Recipe
import ApiTrial.Proofs.PlanOrder
import Mathlib.Data.List.Chain

/-! Why calls cannot be planned. The calls on the way to a visit are needed one by the other, from a
call that is asked for on, and there are as many of them as the visit is deep. So the chain that is
told with a failure is one that the fixtures really ask for, and calls that nothing stands in the
way of are planned. -/
namespace ApiTrial.Registry
open Relation Fixture

/-- A call is asked for, or needed at some distance by a call that is. -/
def Reached (registry : Registry) (calls : List Call) (call : Call) : Prop :=
  ∃ c ∈ calls, ReflTransGen registry.Needs c call

structure Leads (registry : Registry) (calls chain : List Call) : Prop where
  linked : chain.IsChain registry.Needs
  asked : ∃ first ∈ chain.head?, first ∈ calls

inductive Obstacle (registry : Registry) (calls : List Call) : Error → Prop
  | unknown (call : Call) (hr : registry.Reached calls call)
      (hn : registry.get? call.name = none) : Obstacle registry calls (.unknownFixture call.name)
  | cycle (first : Call) (between : List Call) (last : Call) (hr : registry.Reached calls first)
      (hc : (first :: between ++ [last]).IsChain registry.Needs)
      (hi : last.identity = first.identity) :
      Obstacle registry calls (.dependencyCycle ((first :: between ++ [last]).map Call.name))
  | tooDeep (chain : List Call) (hc : registry.Leads calls chain)
      (hl : chain.length = depthLimit + 1) :
      Obstacle registry calls (.dependencyCycle (chain.map Call.name))

section Chain
variable (registry : Registry) (calls : List Call)

theorem leads_singleton (call : Call) (h : call ∈ calls) : registry.Leads calls [call] where
  linked := .singleton call
  asked := ⟨call, rfl, h⟩

/-- A chain may go on with a call that its last one needs. -/
theorem leads_snoc (chain : List Call) (call dependency : Call)
    (h : registry.Leads calls (chain ++ [call])) (hd : registry.Needs call dependency) :
    registry.Leads calls (chain ++ [call] ++ [dependency]) where
  linked := by
    rw [List.append_assoc, List.singleton_append, List.isChain_split]
    exact ⟨h.linked, List.isChain_pair.mpr hd⟩
  asked := by
    obtain ⟨first, hf, hm⟩ := h.asked
    exact ⟨first, List.mem_head?_append_of_mem_head? hf, hm⟩

/-- Every call of a chain is reached. -/
theorem reached_of_leads (before : List Call) (call : Call) (after : List Call)
    (h : registry.Leads calls (before ++ call :: after)) : registry.Reached calls call := by
  obtain ⟨first, hf, hm⟩ := h.asked
  refine ⟨first, hm, ?_⟩
  have hfront : (before ++ [call]).IsChain registry.Needs := (List.isChain_split.mp h.linked).1
  cases before with
  | nil =>
    cases hf
    exact .refl
  | cons c before =>
    cases hf
    exact List.relationReflTransGen_of_exists_isChain_cons _ hfront (by simp)

end Chain

/-- A fold fails at one of its calls. -/
theorem error_of_foldlM (f : List Call → Call → Except Error (List Call)) (calls order : List Call)
    (e : Error) (h : calls.foldlM f order = .error e) :
    ∃ middle, ∃ call ∈ calls, f middle call = .error e := by
  induction calls generalizing order with
  | nil => cases h
  | cons call rest ih =>
    rw [List.foldlM_cons] at h
    cases hm : f order call with
    | error e' =>
      rw [hm] at h
      cases h
      exact ⟨order, call, by simp, hm⟩
    | ok middle =>
      rw [hm] at h
      obtain ⟨m, c, hc, hx⟩ := ih middle h
      exact ⟨m, c, by simp [hc], hx⟩

section Visit
variable (registry : Registry) (calls : List Call)

/-- A chain that cannot go on is told for a cycle, or for its length. -/
theorem obstacle_of_turned (left : Nat) (chain : List Call) (call : Call) (told : List Call)
    (hl : chain.length + left = depthLimit) (hc : registry.Leads calls (chain ++ [call]))
    (h : Turned left call chain told) :
    registry.Obstacle calls (.dependencyCycle (told.map Call.name)) := by
  cases h with
  | back before first cycle hi =>
    rw [List.append_assoc, List.cons_append] at hc
    refine .cycle first cycle call (registry.reached_of_leads calls _ _ _ hc) ?_ hi.symm
    exact (List.isChain_split.mp hc.linked).2
  | away chain hz =>
    apply Obstacle.tooDeep _ hc
    rw [List.length_append, List.length_singleton, ← hl, hz, Nat.add_zero]

/-- A visit that fails meets an obstacle. The induction is on how much longer the chain may grow,
which with its length makes up the depth limit. -/
theorem obstacle_of_visit (left : Nat) (chain order : List Call) (call : Call) (e : Error)
    (hl : chain.length + left = depthLimit) (hc : registry.Leads calls (chain ++ [call]))
    (h : registry.visit left chain order call = .error e) : registry.Obstacle calls e := by
  induction left generalizing chain order call with
  | zero =>
    rcases visit_cases registry 0 chain order call _ h with
      ⟨_, ho⟩ | ⟨told, ht, ho⟩ | ⟨hn, ho⟩ | ⟨_, _, hz, _⟩
    · cases ho
    · cases ho
      exact obstacle_of_turned registry calls 0 chain call told hl hc ht
    · cases ho
      exact .unknown call (registry.reached_of_leads calls chain call [] hc) hn
    · cases hz
  | succ left ih =>
    rcases visit_cases registry (left + 1) chain order call _ h with
      ⟨_, ho⟩ | ⟨told, ht, ho⟩ | ⟨hn, ho⟩ | ⟨_, fixture, hz, hf, _, _, ho⟩
    · cases ho
    · cases ho
      exact obstacle_of_turned registry calls (left + 1) chain call told hl hc ht
    · cases ho
      exact .unknown call (registry.reached_of_leads calls chain call [] hc) hn
    · cases hz
      cases hm : (fixture.dependencies call.params).foldlM
          (registry.visit left (chain ++ [call])) order with
      | ok middle =>
        rw [hm] at ho
        cases ho
      | error e' =>
        rw [hm] at ho
        cases ho
        -- It is the visit of a dependency that failed, one step further down the chain.
        obtain ⟨middle, dependency, hd, hx⟩ := error_of_foldlM _ _ _ _ hm
        have hnext := registry.leads_snoc calls chain call dependency hc ⟨fixture, hf, hd⟩
        refine ih (chain ++ [call]) middle dependency ?_ hnext hx
        rw [List.length_append, List.length_singleton, ← hl]
        omega

theorem obstacle_of_plan (e : Error) (h : registry.plan calls = .error e) :
    registry.Obstacle calls e := by
  obtain ⟨order, call, hc, hx⟩ := error_of_foldlM _ _ _ _ h
  have hfirst := registry.leads_singleton calls call hc
  exact obstacle_of_visit registry calls depthLimit [] order call e (Nat.zero_add _) hfirst hx

/-- There are two reasons why calls cannot be planned. -/
theorem error_of_plan (e : Error) (h : registry.plan calls = .error e) :
    (∃ name, e = .unknownFixture name) ∨ ∃ names, e = .dependencyCycle names := by
  cases obstacle_of_plan registry calls e h with
  | unknown call hr hn => exact Or.inl ⟨_, rfl⟩
  | cycle first between last hr hc hi => exact Or.inr ⟨_, rfl⟩
  | tooDeep chain hc hl => exact Or.inr ⟨_, rfl⟩

end Visit

/-- A name is told as unknown only if it is, and a call that is reached has it. A chain is told only
if its calls need one another, from a call that is reached on, and if it comes back to the identity
of its first call, or else begins with a call that is asked for and has 33 calls. Calls are planned
if all that they reach are known, none of these needs its own identity in the end, and no chain of
needs has more than 32 calls. -/
theorem plan_error_tells_obstacle (registry : Registry) (calls : List Call) :
    (∀ name, registry.plan calls = .error (.unknownFixture name) →
      registry.get? name = none ∧ ∃ call, registry.Reached calls call ∧ call.name = name) ∧
    (∀ names, registry.plan calls = .error (.dependencyCycle names) →
      ∃ first rest, names = (first :: rest).map Call.name ∧
        (first :: rest).IsChain registry.Needs ∧ registry.Reached calls first ∧
        ((∃ last ∈ rest.getLast?, last.identity = first.identity) ∨
          first ∈ calls ∧ (first :: rest).length = 33)) ∧
    ((∀ call, registry.Reached calls call → ∃ fixture, registry.get? call.name = some fixture) →
      (∀ call again, registry.Reached calls call → TransGen registry.Needs call again →
        again.identity ≠ call.identity) →
      (∀ first rest, first ∈ calls → (first :: rest).IsChain registry.Needs →
        (first :: rest).length ≤ 32) →
      ∃ order, registry.plan calls = .ok order) := by
  refine ⟨?_, ?_, ?_⟩
  · intro name h
    cases obstacle_of_plan registry calls _ h with
    | unknown call hr hn => exact ⟨hn, call, hr, rfl⟩
  · intro names h
    generalize he : Error.dependencyCycle names = e at h
    cases obstacle_of_plan registry calls e h with
    | unknown call hr hn => cases he
    | cycle first between last hr hc hi =>
      cases he
      exact ⟨first, between ++ [last], rfl, hc, hr, Or.inl ⟨last, by simp, hi⟩⟩
    | tooDeep chain hc hl =>
      cases he
      obtain ⟨first, hf, hm⟩ := hc.asked
      obtain ⟨rest, rfl⟩ := List.head?_eq_some_iff.mp hf
      exact ⟨first, rest, rfl, hc.linked, ⟨first, hm, .refl⟩, Or.inr ⟨hm, hl⟩⟩
  · intro hknown hacyclic hshort
    cases hp : registry.plan calls with
    | ok order => exact ⟨order, rfl⟩
    | error e =>
      cases obstacle_of_plan registry calls e hp with
      | unknown call hr hn =>
        obtain ⟨fixture, hf⟩ := hknown call hr
        rw [hn] at hf
        cases hf
      | cycle first between last hr hc hi =>
        have hback : TransGen registry.Needs first last := by
          cases between with
          | nil => exact .single (List.isChain_pair.mp hc)
          | cons c between =>
            obtain ⟨hn, hrest⟩ := List.isChain_cons_cons.mp hc
            exact .head' hn (List.relationReflTransGen_of_exists_isChain_cons _ hrest (by simp))
        exact absurd hi (hacyclic first last hr hback)
      | tooDeep chain hc hl =>
        obtain ⟨first, hf, hm⟩ := hc.asked
        obtain ⟨rest, rfl⟩ := List.head?_eq_some_iff.mp hf
        have hle : (first :: rest).length ≤ 32 := hshort first rest hm hc.linked
        rw [hl] at hle
        exact absurd hle (by decide)

def needing (name : String) (needs : List String) : Recipe where
  name := name
  dependsOn := needs.map fun dependency => ⟨dependency, []⟩
  steps := []
  outputs := []

theorem needs_ticketing (call dependency : Call)
    (h : Registry.Needs Ticketing.fixtures call dependency) :
    call.name = "create_paid_cart" ∧ dependency = Ticketing.eventCall call.params := by
  obtain ⟨fixture, hf, hd⟩ := h
  have hname := name_of_get? hf
  have hmem := List.mem_of_find?_eq_some hf
  have hx : fixture = Ticketing.event ∨ fixture = Ticketing.paidCart := by
    simpa [Ticketing.fixtures] using hmem
  rcases hx with rfl | rfl
  · cases hd
  · exact ⟨hname.symm, List.mem_singleton.mp hd⟩

theorem reached_paidCart (call : Call)
    (h : Registry.Reached Ticketing.fixtures [⟨"create_paid_cart", []⟩] call) :
    call = ⟨"create_paid_cart", []⟩ ∨ call = ⟨"create_event", []⟩ := by
  obtain ⟨start, hs, hr⟩ := h
  obtain rfl := List.mem_singleton.mp hs
  induction hr with
  | refl => exact Or.inl rfl
  | tail _ hn ih =>
    obtain ⟨hname, rfl⟩ := needs_ticketing _ _ hn
    rcases ih with rfl | rfl
    · exact Or.inr rfl
    · exact absurd hname (by decide)

/-- The chain that leads into a circle is not told, only the circle; a name that is unknown is told
wherever it is needed; and a paid cart is planned behind its event. -/
theorem plan_error_tells_obstacle_circle :
    let circle : Registry := [(needing "a" ["b"]).fixture, (needing "b" ["c"]).fixture,
      (needing "c" ["b"]).fixture]
    let gap : Registry := [(needing "a" ["b"]).fixture, (needing "b" ["gone"]).fixture]
    (circle.plan [⟨"a", []⟩] = .error (.dependencyCycle ["b", "c", "b"]) ∧
      ∃ first rest, ["b", "c", "b"] = (first :: rest).map Call.name ∧
        circle.Reached [⟨"a", []⟩] first) ∧
    (gap.plan [⟨"a", []⟩] = .error (.unknownFixture "gone") ∧
      ∃ call, gap.Reached [⟨"a", []⟩] call ∧ call.name = "gone") ∧
    ∃ order, plan Ticketing.fixtures [⟨"create_paid_cart", []⟩] = .ok order := by
  intro circle gap
  have hcircle : circle.plan [⟨"a", []⟩] = .error (.dependencyCycle ["b", "c", "b"]) := rfl
  have hgap : gap.plan [⟨"a", []⟩] = .error (.unknownFixture "gone") := rfl
  have htold := (plan_error_tells_obstacle circle [⟨"a", []⟩]).2.1 _ hcircle
  have hgone := (plan_error_tells_obstacle gap [⟨"a", []⟩]).1 _ hgap
  have hcart := (plan_error_tells_obstacle Ticketing.fixtures [⟨"create_paid_cart", []⟩]).2.2
  refine ⟨⟨hcircle, ?_⟩, ⟨hgap, hgone.2⟩, hcart ?_ ?_ ?_⟩
  · obtain ⟨first, rest, hn, -, hr, -⟩ := htold
    exact ⟨first, rest, hn, hr⟩
  · intro call hr
    rcases reached_paidCart call hr with rfl | rfl
    · exact ⟨Ticketing.paidCart, rfl⟩
    · exact ⟨Ticketing.event, rfl⟩
  · intro call again hr ht
    obtain ⟨next, hn, hrest⟩ := TransGen.head'_iff.mp ht
    obtain ⟨hname, rfl⟩ := needs_ticketing _ _ hn
    rcases reached_paidCart call hr with rfl | rfl
    · rcases ReflTransGen.cases_head hrest with rfl | ⟨other, hother, -⟩
      · decide
      · exact absurd (needs_ticketing _ _ hother).1 (by decide)
    · exact absurd hname (by decide)
  · intro first rest hm hc
    match rest, hc with
    | [], _ => simp
    | [_], _ => simp
    | next :: other :: rest, hc =>
      rw [List.isChain_cons_cons, List.isChain_cons_cons] at hc
      have hevent : next.name = "create_event" := by rw [(needs_ticketing _ _ hc.1).2]; rfl
      exact absurd (hevent.symm.trans (needs_ticketing _ _ hc.2.1).1) (by decide)

end ApiTrial.Registry
