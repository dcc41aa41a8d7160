import ApiTrial.Proofs.CheckRequirements

/-! Where things are found. A finding is made at the plan of the fixtures, at a key that a fixture
requires, at a step or at an assertion, and each of these places is told by what is known in front
of it. The findings about a list of scenarios are those about each of them, from what the ones in
front have made known. -/
namespace ApiTrial.Check
open Fixture

def problems (available : List String) : Except Error (List String) → List String
  | .ok keys => (keys.filter fun key => !available.contains key).map neverSet
  | .error e => [e.message]

theorem mem_found_use (known : Known) (location : String) (keys? : Except Error (List String))
    (entry : String × String) :
    entry ∈ (known.use location keys?).found ↔ entry ∈ known.found ∨
      ∃ problem ∈ problems known.available keys?, entry = (location, problem) := by
  cases keys? with
  | error e => simp [Known.use, Known.report, problems]
  | ok keys => simp [Known.use, Known.require, problems, @eq_comm _ entry]

/-- Nothing is wrong with keys that can be listed and are all set. -/
theorem problems_eq_nil (available keys : List String) (h : ∀ key ∈ keys, key ∈ available) :
    problems available (.ok keys) = [] := by
  simpa [problems] using h

section Steps
variable (known : Known) (phase : String)

theorem steps_concat (front : List RequestStep) (step : RequestStep) :
    known.steps phase (front ++ [step]) =
      (known.steps phase front).step phase step front.length := by
  rw [Known.steps, List.zipIdx_append, List.foldl_append, Nat.zero_add]
  rfl

theorem mem_available_step (step : RequestStep) (index : Nat) (key : String) :
    key ∈ (known.step phase step index).available ↔
      key ∈ known.available ∨ key ∈ step.capture.keys := by
  rw [available_step, List.mem_append]

/-- Behind steps, what they capture is taken to be set. -/
theorem mem_available_steps (steps : List RequestStep) (key : String) :
    key ∈ (known.steps phase steps).available ↔
      key ∈ known.available ∨ ∃ step ∈ steps, key ∈ step.capture.keys := by
  induction steps using List.reverseRecOn with
  | nil => simp [Known.steps]
  | append_singleton front step ih =>
    rw [steps_concat, mem_available_step, ih, or_assoc]
    simp only [List.mem_append, List.mem_singleton, or_and_right, exists_or, exists_eq_left]

/-- Each finding about steps is made at one of them, from what is known behind those in front. -/
theorem mem_found_steps (steps : List RequestStep) (entry : String × String) :
    entry ∈ (known.steps phase steps).found ↔ entry ∈ known.found ∨
      ∃ index step, steps[index]? = some step ∧
        ∃ problem ∈ problems (known.steps phase (steps.take index)).available
            step.request.placeholders, entry = (step.label phase index, problem) := by
  induction steps using List.reverseRecOn with
  | nil => simp [Known.steps]
  | append_singleton front last ih =>
    have hlast : entry ∈ (known.steps phase (front ++ [last])).found ↔
        entry ∈ (known.steps phase front).found ∨
          ∃ problem ∈ problems (known.steps phase front).available last.request.placeholders,
            entry = (last.label phase front.length, problem) := by
      rw [steps_concat]
      exact mem_found_use _ _ _ entry
    rw [hlast, ih, or_assoc]
    refine or_congr Iff.rfl ?_
    constructor
    · rintro (⟨index, step, hs, hp⟩ | hp)
      · have hlt : index < front.length := (List.getElem?_eq_some_iff.mp hs).1
        refine ⟨index, step, ?_, ?_⟩
        · rw [List.getElem?_append_left hlt, hs]
        · rwa [List.take_append_of_le_length (Nat.le_of_lt hlt)]
      · refine ⟨front.length, last, List.getElem?_concat_length, ?_⟩
        rwa [List.take_left]
    · rintro ⟨index, step, hs, hp⟩
      rcases Nat.lt_or_ge index front.length with hlt | hge
      · rw [List.getElem?_append_left hlt] at hs
        rw [List.take_append_of_le_length (Nat.le_of_lt hlt)] at hp
        exact Or.inl ⟨index, step, hs, hp⟩
      · have hlen := (List.getElem?_eq_some_iff.mp hs).1
        rw [List.length_append, List.length_singleton] at hlen
        obtain rfl : index = front.length := by omega
        rw [List.getElem?_concat_length, Option.some.injEq] at hs
        rw [List.take_left] at hp
        exact Or.inr (hs ▸ hp)

end Steps

/-- A walk that sets nothing finds at each stop what it would find there at once. -/
theorem mem_found_foldl_of_same {α : Type} (f : Known → α → Known)
    (P : List String → α → String × String → Prop)
    (hsame : ∀ known a, (f known a).available = known.available)
    (hf : ∀ known a entry, entry ∈ (f known a).found ↔
      entry ∈ known.found ∨ P known.available a entry)
    (l : List α) (known : Known) :
    (l.foldl f known).available = known.available ∧
    ∀ entry, entry ∈ (l.foldl f known).found ↔
      entry ∈ known.found ∨ ∃ a ∈ l, P known.available a entry := by
  induction l generalizing known with
  | nil => simp
  | cons a rest ih =>
    obtain ⟨havailable, hfound⟩ := ih (f known a)
    rw [List.foldl_cons]
    refine ⟨havailable.trans (hsame known a), ?_⟩
    intro entry
    rw [hfound, hf, hsame, or_assoc, List.exists_mem_cons_iff]

/-- Assertions set nothing, and each finding about them is made at one of their texts. -/
theorem mem_found_assertions (known : Known) (assertions : List Assertion) :
    (assertions.foldl Known.assertion known).available = known.available ∧
    ∀ entry, entry ∈ (assertions.foldl Known.assertion known).found ↔ entry ∈ known.found ∨
      ∃ a ∈ assertions, ∃ source ∈ texts a,
        ∃ problem ∈ problems known.available (RequestTemplate.keysOf source),
          entry = (a.name, problem) := by
  have hone (known : Known) (a : Assertion) := mem_found_foldl_of_same
    (fun known text => Known.use known a.name (RequestTemplate.keysOf text))
    (fun available source entry => ∃ problem ∈ problems available (RequestTemplate.keysOf source),
      entry = (a.name, problem))
    (fun known text => available_use known a.name _)
    (fun known text entry => mem_found_use known a.name _ entry) (texts a) known
  exact mem_found_foldl_of_same Known.assertion
    (fun available a entry => ∃ source ∈ texts a,
      ∃ problem ∈ problems available (RequestTemplate.keysOf source), entry = (a.name, problem))
    (fun known a => (hone known a).1) (fun known a entry => (hone known a).2 entry) assertions known

section Scenario
variable (registry : Registry) (seeded : List String) (s : Scenario)

def knownBuilt : Known := Known.fixtures registry { available := seeded } s.fixtures

def knownSetUp : Known := (knownBuilt registry seeded s).steps "setup" s.setup

def knownActed : Known := (knownSetUp registry seeded s).steps "action" s.actions

def knownBehind : Known := Known.scenario registry { available := seeded } s

inductive Place where
  | plan
  | requirement
  | setup (index : Nat)
  | action (index : Nat)
  | assertion
  | teardown (index : Nat)

/-- A finding at a place of a scenario in front of which the given keys are set. -/
inductive FoundAt : Place → String × String → Prop
  | plan (e : Error) (h : registry.plan s.fixtures = .error e) :
      FoundAt .plan ("fixtures", e.message)
  | requirement (plan front : List Call) (call : Call) (key : String)
      (h : registry.plan s.fixtures = .ok plan) (hd : registry.Demands seeded plan front call key)
      (hn : ¬ registry.Announces front key) :
      FoundAt .requirement (fixtureLocation call.name, neverSet key)
  | setup (index : Nat) (step : RequestStep) (problem : String) (hs : s.setup[index]? = some step)
      (hp : problem ∈ problems ((knownBuilt registry seeded s).steps "setup"
        (s.setup.take index)).available step.request.placeholders) :
      FoundAt (.setup index) (step.label "setup" index, problem)
  | action (index : Nat) (step : RequestStep) (problem : String) (hs : s.actions[index]? = some step)
      (hp : problem ∈ problems ((knownSetUp registry seeded s).steps "action"
        (s.actions.take index)).available step.request.placeholders) :
      FoundAt (.action index) (step.label "action" index, problem)
  | assertion (a : Assertion) (source problem : String) (hs : a ∈ s.assertions)
      (ht : source ∈ texts a) (hp : problem ∈ problems (knownActed registry seeded s).available
        (RequestTemplate.keysOf source)) : FoundAt .assertion (a.name, problem)
  | teardown (index : Nat) (step : RequestStep) (problem : String)
      (hs : s.teardown[index]? = some step)
      (hp : problem ∈ problems ((knownActed registry seeded s).steps "teardown"
        (s.teardown.take index)).available step.request.placeholders) :
      FoundAt (.teardown index) (step.label "teardown" index, problem)

/-- Before any step, a finding is about a plan or about a requirement. -/
theorem mem_found_built (entry : String × String) :
    entry ∈ (knownBuilt registry seeded s).found ↔
      FoundAt registry seeded s .plan entry ∨ FoundAt registry seeded s .requirement entry := by
  rw [knownBuilt, Known.fixtures]
  cases hp : registry.plan s.fixtures with
  | error e =>
    constructor
    · intro h
      obtain rfl : entry = ("fixtures", e.message) := by simpa [Known.report] using h
      exact Or.inl (.plan e hp)
    · rintro (h | h)
      · cases h with
        | plan e' h =>
          rw [hp] at h
          cases h
          simp [Known.report]
      · cases h with
        | requirement plan front call key h hd hn =>
          rw [hp] at h
          cases h
  | ok plan =>
    show entry ∈ (plan.foldl (Known.fixture registry) { available := seeded }).found ↔ _
    rw [mem_found_foldl]
    constructor
    · rintro ⟨front, call, key, hd, hn, rfl⟩
      exact Or.inr (.requirement plan front call key hp hd hn)
    · rintro (h | h)
      · cases h with
        | plan e h =>
          rw [hp] at h
          cases h
      · cases h with
        | requirement plan' front call key h hd hn =>
          rw [hp] at h
          cases h
          exact ⟨front, call, key, hd, hn, rfl⟩

/-- The findings about a scenario are those at its places. -/
theorem mem_found_behind (entry : String × String) :
    entry ∈ (knownBehind registry seeded s).found ↔
      ∃ place, FoundAt registry seeded s place entry := by
  have hasserted := mem_found_assertions (knownActed registry seeded s) s.assertions
  let asserted := s.assertions.foldl Known.assertion (knownActed registry seeded s)
  have hsame (steps : List RequestStep) (key : String) :
      key ∈ (asserted.steps "teardown" steps).available ↔
        key ∈ ((knownActed registry seeded s).steps "teardown" steps).available := by
    rw [mem_available_steps, mem_available_steps, hasserted.1]
  have hproblems (steps : List RequestStep) (keys? : Except Error (List String)) :
      problems (asserted.steps "teardown" steps).available keys? =
        problems ((knownActed registry seeded s).steps "teardown" steps).available keys? := by
    cases keys? with
    | error e => rfl
    | ok keys => simp only [problems, List.contains_eq_mem, hsame]
  have hbehind : entry ∈ (knownBehind registry seeded s).found ↔ _ :=
    mem_found_steps asserted "teardown" s.teardown entry
  rw [hbehind, hasserted.2, knownActed, mem_found_steps, knownSetUp, mem_found_steps,
    mem_found_built]
  constructor
  · rintro (((((h | h) | ⟨index, step, hs, problem, hp, rfl⟩) |
      ⟨index, step, hs, problem, hp, rfl⟩) | ⟨a, ha, source, ht, problem, hp, rfl⟩) |
      ⟨index, step, hs, problem, hp, rfl⟩)
    · exact ⟨_, h⟩
    · exact ⟨_, h⟩
    · exact ⟨_, .setup index step problem hs hp⟩
    · exact ⟨_, .action index step problem hs hp⟩
    · exact ⟨_, .assertion a source problem ha ht hp⟩
    · rw [hproblems] at hp
      exact ⟨_, .teardown index step problem hs hp⟩
  · rintro ⟨place, h⟩
    cases h with
    | plan e h => exact Or.inl (Or.inl (Or.inl (Or.inl (Or.inl (.plan e h)))))
    | requirement plan front call key h hd hn =>
      exact Or.inl (Or.inl (Or.inl (Or.inl (Or.inr (.requirement plan front call key h hd hn)))))
    | setup index step problem hs hp =>
      exact Or.inl (Or.inl (Or.inl (Or.inr ⟨index, step, hs, problem, hp, rfl⟩)))
    | action index step problem hs hp =>
      exact Or.inl (Or.inl (Or.inr ⟨index, step, hs, problem, hp, rfl⟩))
    | assertion a source problem hs ht hp =>
      exact Or.inl (Or.inr ⟨a, hs, source, ht, problem, hp, rfl⟩)
    | teardown index step problem hs hp =>
      rw [← hproblems] at hp
      exact Or.inr ⟨index, step, hs, problem, hp, rfl⟩

end Scenario

/-- The keys that are taken to be set behind scenarios that are run in order. -/
def availableBehind (registry : Registry) (seeded : List String) (before : List Scenario) :
    List String :=
  before.foldl (fun available s => (knownBehind registry available s).available) seeded

/-- The findings about a scenario stand between those about the ones in front and behind it. -/
theorem findings_append (registry : Registry) (seeded : List String) (before rest : List Scenario) :
    findings registry seeded (before ++ rest) =
      findings registry seeded before ++
        findings registry (availableBehind registry seeded before) rest := by
  induction before generalizing seeded with
  | nil => rfl
  | cons s before ih =>
    rw [List.cons_append, findings, findings, ih, List.append_assoc]
    rfl

end ApiTrial.Check
