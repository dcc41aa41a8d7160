import ApiTrial.Proofs.BuildRequirements
import ApiTrial.Proofs.CheckWalk
import Mathlib.Data.List.Induction

/-! The check of requirements beside the build. The check takes a key to be set once any call in
front declares it, and does not look at parameters; a build finds what its own call supplies. They
agree where these two come to the same. -/
namespace ApiTrial
open Fixture

/-- One more call at the end of a plan adds the demands of that call. -/
theorem Registry.demands_snoc_iff (registry : Registry) (seeded : List String)
    (plan front : List Call) (last call : Call) (key : String) :
    registry.Demands seeded (plan ++ [last]) front call key ↔
      registry.Demands seeded plan front call key ∨ front = plan ∧ call = last ∧
        (∃ fixture, registry.get? last.name = some fixture ∧ key ∈ fixture.requires) ∧
        key ∉ seeded := by
  constructor
  · rintro ⟨⟨rest, hp⟩, hr, hu⟩
    rcases List.eq_nil_or_concat rest with rfl | ⟨rest, c, rfl⟩
    · obtain ⟨h1, h2⟩ := List.append_inj' hp rfl
      have hc : last = call := by simpa using h2
      exact Or.inr ⟨h1.symm, hc.symm, hc ▸ hr, hu⟩
    · have hx : plan ++ [last] = (front ++ call :: rest) ++ [c] := by simpa using hp
      exact Or.inl ⟨⟨rest, (List.append_inj' hx rfl).1⟩, hr, hu⟩
  · rintro (⟨⟨rest, rfl⟩, hr, hu⟩ | ⟨rfl, rfl, hr, hu⟩)
    · exact ⟨⟨rest ++ [last], by simp⟩, hr, hu⟩
    · exact ⟨⟨[], rfl⟩, hr, hu⟩

namespace Check
variable (registry : Registry)

theorem mem_found_fixture (known : Known) (call : Call) (entry : String × String) :
    entry ∈ (known.fixture registry call).found ↔ entry ∈ known.found ∨
      ∃ key, (∃ fixture, registry.get? call.name = some fixture ∧ key ∈ fixture.requires) ∧
        key ∉ known.available ∧ entry = (fixtureLocation call.name, neverSet key) := by
  rw [Known.fixture]
  cases registry.get? call.name with
  | none => simp
  | some fixture =>
    show entry ∈ known.found ++ _ ↔ _
    rw [List.mem_append]
    refine or_congr Iff.rfl ?_
    simp only [List.mem_map, List.mem_filter, Option.some.injEq, exists_eq_left', Bool.not_eq_true',
      List.contains_eq_mem, decide_eq_false_iff_not, and_assoc, @eq_comm _ entry]

/-- The findings about the fixtures of a plan are the demands that no call in front announces. -/
theorem mem_found_foldl (seeded : List String) (plan : List Call) (entry : String × String) :
    entry ∈ (plan.foldl (Known.fixture registry) { available := seeded }).found ↔
      ∃ front call key, registry.Demands seeded plan front call key ∧
        ¬ registry.Announces front key ∧
        entry = (fixtureLocation call.name, neverSet key) := by
  induction plan using List.reverseRecOn with
  | nil =>
    have hn (front : List Call) (call : Call) (key : String) :
        ¬ registry.Demands seeded [] front call key := by
      rintro ⟨⟨rest, hp⟩, -, -⟩
      simp at hp
    simp [hn]
  | append_singleton plan last ih =>
    rw [List.foldl_append, List.foldl_cons, List.foldl_nil, mem_found_fixture, ih]
    constructor
    · rintro (⟨front, call, key, hd, ha, he⟩ | ⟨key, hr, hn, he⟩)
      · exact ⟨front, call, key, (registry.demands_snoc_iff ..).mpr (Or.inl hd), ha, he⟩
      · rw [mem_available_foldl, not_or] at hn
        exact ⟨plan, last, key, (registry.demands_snoc_iff ..).mpr (Or.inr ⟨rfl, rfl, hr, hn.1⟩),
          hn.2, he⟩
    · rintro ⟨front, call, key, hd, ha, he⟩
      rcases (registry.demands_snoc_iff ..).mp hd with hd | ⟨rfl, rfl, hr, hu⟩
      · exact Or.inl ⟨front, call, key, hd, ha, he⟩
      · refine Or.inr ⟨key, hr, ?_, he⟩
        rw [mem_available_foldl, not_or]
        exact ⟨hu, ha⟩

/-- The check and the build of the fixtures of one scenario, side by side. The check complains of a
demand that no call in front announces, a build fails for a demand that its call does not supply;
so they agree if announced and supplied are the same for every demand of the plan. -/
theorem requirement_findings_iff (registry : Registry) (client : Client) (caller : Nat)
    (network : Network) (world : World) (seeded : List String) (s : Scenario) (plan : List Call)
    (hp : registry.plan s.fixtures = .ok plan)
    (hc : ∀ fixture ∈ registry, fixture.Confined)
    (hd : ∀ fixture ∈ registry, fixture.Dependable client network)
    (hw : caller < world.store.length)
    (hk : ∀ key, key ∈ seeded ↔ world.store.has caller key = true) :
    let found := (Known.fixtures registry { available := seeded } s.fixtures).found
    let reports := ∃ name key, (fixtureLocation name, neverSet key) ∈ found
    let fails := ∃ name key after, (buildAll registry client caller s.fixtures).exec network world =
      (.error (requirementUnmet name key), after)
    (found.map fun entry => ⟨s.name, entry.1, entry.2⟩) <+: findings registry seeded [s] ∧
    (reports ↔ ∃ front call key, registry.Demands seeded plan front call key ∧
      ¬ registry.Announces front key) ∧
    (fails ↔ ∃ front call key, registry.Demands seeded plan front call key ∧
      ¬ registry.Supplies front call key) ∧
    ((∀ front call key, registry.Demands seeded plan front call key →
        (registry.Announces front key ↔ registry.Supplies front call key)) →
      (reports ↔ fails)) := by
  intro found reports fails
  have hs := Registry.settled_of_plan registry s.fixtures plan hp
  have hfound : found = (plan.foldl (Known.fixture registry) { available := seeded }).found := by
    simp only [found, Known.fixtures, hp]
  have hreports : reports ↔ ∃ front call key, registry.Demands seeded plan front call key ∧
      ¬ registry.Announces front key := by
    simp only [reports, hfound, mem_found_foldl]
    constructor
    · rintro ⟨_, _, front, call, key, hx, ha, _⟩
      exact ⟨front, call, key, hx, ha⟩
    · rintro ⟨front, call, key, hx, ha⟩
      exact ⟨call.name, key, front, call, key, hx, ha, rfl⟩
  have hfails : fails ↔ ∃ front call key, registry.Demands seeded plan front call key ∧
      ¬ registry.Supplies front call key := by
    constructor
    · rintro ⟨name, key, after, h⟩
      rcases buildAll_cases registry client caller network _ world after _ h with
        ⟨_, he, _⟩ | ⟨p, e, he, _, hb⟩ | ⟨_, _, _, _, _, ho, _⟩
      · rw [hp] at he
        cases he
      · rw [hp] at he
        cases he
        obtain ⟨front, call, k, hx, hn, _⟩ := demands_of_buildRest_error registry client caller
          network hc plan world seeded hs hw hk hd after e hb
        exact ⟨front, call, k, hx, hn⟩
      · cases ho
    · rintro ⟨front, call, key, hx, hn⟩
      rcases hb : (buildRest registry client caller [] plan).exec network world with ⟨r, after⟩
      cases r with
      | ok built =>
        exact absurd (supplies_of_buildRest_ok registry client caller network hc plan world seeded
          hs hw hk hd built after hb front call key hx) hn
      | error e =>
        obtain ⟨_, c, k, _, _, rfl⟩ := demands_of_buildRest_error registry client caller network hc
          plan world seeded hs hw hk hd after e hb
        exact ⟨c.name, k, after,
          exec_buildAll_of_error registry client caller network _ plan world after _ hp hb⟩
  refine ⟨?_, hreports, hfails, ?_⟩
  · have hx := prefix_scenario registry { available := seeded } s
    rw [findings, findings, List.append_nil]
    exact hx.map _
  · intro h
    rw [hreports, hfails]
    refine exists_congr fun front => exists_congr fun call => exists_congr fun key => ?_
    exact and_congr_right fun hx => not_congr (h front call key hx)

/-- A fixture that requires what its only dependency declares. -/
theorem requirement_findings_iff_pair :
    let maker := fixed "maker" [] [] [("seed", .str "s")]
    let user := fixed "user" ["seed"] [⟨"maker", []⟩] []
    (∃ name key, (fixtureLocation name, neverSet key) ∈
      (Known.fixtures [user, maker] { available := [] } [⟨"user", []⟩]).found) ↔
    ∃ name key after, (buildAll [user, maker] (.new "" 0) 0 [⟨"user", []⟩]).exec .unreachable
      ⟨[⟨"root", none, []⟩], [], []⟩ = (.error (requirementUnmet name key), after) := by
  intro maker user
  have hall (P : Fixture → Prop) (hm : P maker) (hu : P user) : ∀ f ∈ [user, maker], P f := by
    simp [hm, hu]
  have hk (key : String) :
      key ∈ ([] : List String) ↔ Store.has [⟨"root", none, []⟩] 0 key = true := by
    simp [Store.has, Store.lookup, Table.get?]
  have h := requirement_findings_iff [user, maker] (.new "" 0) 0 .unreachable
    ⟨[⟨"root", none, []⟩], [], []⟩ [] { name := "pair", fixtures := [⟨"user", []⟩] } _ rfl
    (hall _ (confined_fixed _ _ _ _) (confined_fixed _ _ _ _))
    (hall _ (dependable_fixed _ _ _ _ _ _) (dependable_fixed _ _ _ _ _ _)) (by decide) hk
  refine h.2.2.2 ?_
  rintro front call key ⟨⟨rest, hp⟩, ⟨fixture, hf, hr⟩, -⟩
  rcases front with _ | ⟨c, _ | ⟨d, more⟩⟩
  · -- The maker comes first and requires nothing.
    have hc : (⟨"maker", []⟩ : Call) = call := (List.cons.inj hp).1
    subst hc
    cases hf
    cases hr
  · obtain ⟨hc, hrest⟩ := List.cons.inj hp
    have hu : (⟨"user", []⟩ : Call) = call := (List.cons.inj hrest).1
    subst hc hu
    cases hf
    have hdeclares : Registry.Declares [user, maker] ⟨"maker", []⟩ key := ⟨maker, rfl, hr⟩
    exact iff_of_true ⟨_, by simp, hdeclares⟩
      (Or.inr ⟨⟨"maker", []⟩, _, ⟨user, rfl, by simp [user, fixed]⟩, by simp, rfl, hdeclares⟩)
  · simp at hp

end Check
end ApiTrial
