import ApiTrial.Proofs.StepWalk

/-! Which response an assertion is about. Responses are found by the labels of their actions, and an
action without an id is labelled by its position. An id may be such a label: then the action at that
position, if it comes before the one that has the id, hides it from the assertions. Where nothing is
hidden an assertion is about the response of the action that it names. -/
namespace ApiTrial

theorem require_eq_ok_iff (holds : Bool) (complaint : String) :
    require holds complaint = .ok () ↔ holds = true := by
  cases holds <;> simp [require]

namespace Assertion

def checkOn (assertion : Assertion) (response : Response) (value? : String → Option Json) :
    Except String Unit := do
  whenSet assertion.binding fun expected => expected.check value?
  if assertion.readsResponse then assertion.checkResponse value? response

def verdictOn (assertion : Assertion) (response : Response) (value? : String → Option Json) :
    Verdict :=
  match assertion.checkOn response value? with
  | .ok () => ⟨assertion.name, true, none⟩
  | .error message => ⟨assertion.name, false, some message⟩

theorem verdict_of_select (assertion : Assertion) (responses : List Labelled)
    (value? : String → Option Json) (response : Response)
    (h : select assertion.response responses = .ok response) :
    assertion.verdict responses value? = assertion.verdictOn response value? := by
  have hc : assertion.check responses value? = assertion.checkOn response value? := by
    rw [check, checkOn, h]
    rfl
  cases hx : assertion.checkOn response value? with
  | ok u => simp only [verdict, verdictOn, hc, hx]
  | error message => simp only [verdict, verdictOn, hc, hx]

/-- An assertion has passed if nothing is wrong with the response that it is about. -/
theorem passed_verdict_iff (assertion : Assertion) (responses : List Labelled)
    (value? : String → Option Json) (response : Response)
    (h : select assertion.response responses = .ok response) :
    (assertion.verdict responses value?).passed = true ↔
      assertion.checkOn response value? = .ok () := by
  rw [verdict_of_select assertion responses value? response h, verdictOn]
  cases assertion.checkOn response value? <;> simp

/-- A response is selected by its label if none in front of it has the same. -/
theorem select_of_first (responses : List Labelled) (label : String) (i : Nat) (labelled : Labelled)
    (h : responses[i]? = some labelled) (hl : labelled.label = label)
    (hf : ∀ j other, j < i → responses[j]? = some other → other.label ≠ label) :
    select (some label) responses = .ok labelled.response := by
  have hfind : (responses.find? fun r => r.label == label) = some labelled := by
    obtain ⟨hi, hx⟩ := List.getElem?_eq_some_iff.mp h
    rw [List.find?_eq_some_iff_getElem]
    refine ⟨by simp [hl], i, hi, hx, ?_⟩
    intro j hj
    have hne := hf j responses[j] hj (List.getElem?_eq_getElem (by omega))
    simpa using hne
  rw [select, hfind]

end Assertion

/-- Positions are told apart by the labels that they give. -/
theorem positionLabel_injective (phase : String) (i j : Nat)
    (h : s!"{phase}#{i + 1}" = s!"{phase}#{j + 1}") : i = j := by
  have hdigits : toString (i + 1) = toString (j + 1) := String.append_right_inj _ |>.mp h
  rw [Nat.toString_eq_ofList_toDigits, Nat.toString_eq_ofList_toDigits, String.ofList_inj] at hdigits
  have hread := congrArg (fun digits => Nat.ofDigitChars 10 digits 0) hdigits
  simp only [Nat.ofDigitChars_ten_toDigits] at hread
  omega

namespace Scenario

def HasId (scenario : Scenario) (i : Nat) (id : String) : Prop :=
  ∃ step, scenario.actions[i]? = some step ∧ step.id = some id

/-- An action without an id stands in front of another and is labelled with the id of that one. -/
def Hides (scenario : Scenario) (i own : Nat) (id : String) : Prop :=
  i < own ∧ ∃ step, scenario.actions[i]? = some step ∧ step.id = none ∧ step.label "action" i = id

section Ids

/-- Where no id is found to repeat, the ids differ. -/
theorem nodup_of_repeated? (before ids : List String) (h : repeated? before ids = none)
    (hb : before.Nodup) : (before ++ ids).Nodup := by
  induction ids generalizing before with
  | nil => rwa [List.append_nil]
  | cons id rest ih =>
    rw [repeated?] at h
    split at h
    · cases h
    · rename_i hn
      have hnew : id ∉ before := by simpa using hn
      have hnext : (before ++ [id]).Nodup := by
        rw [List.nodup_append]
        refine ⟨hb, by simp, ?_⟩
        rintro a ha b hb rfl
        rw [List.mem_singleton.mp hb] at ha
        exact hnew ha
      have hall := ih (before ++ [id]) h hnext
      rwa [List.append_assoc, List.singleton_append] at hall

variable (scenario : Scenario) (h : scenario.fault? = none)
include h

theorem actions_ne_nil : scenario.actions ≠ [] := by
  intro hempty
  rw [fault?, hempty] at h
  cases h

theorem ids_of_fault? : repeated? [] scenario.actionIds = none ∧
    scenario.assertions.findSome? (assertionFault? scenario.actionIds) = none := by
  rw [fault?] at h
  split at h
  · cases h
  · split at h
    · cases h
    · rename_i hr
      exact ⟨hr, h⟩

theorem hasId_unique (i j : Nat) (id : String) (hi : scenario.HasId i id)
    (hj : scenario.HasId j id) : i = j := by
  have hn : scenario.actionIds.Nodup :=
    nodup_of_repeated? [] _ (ids_of_fault? scenario h).1 List.nodup_nil
  rw [actionIds, List.Nodup, List.pairwise_filterMap, List.pairwise_iff_getElem] at hn
  obtain ⟨first, hfirst, hid⟩ := hi
  obtain ⟨second, hsecond, hid'⟩ := hj
  obtain ⟨hil, rfl⟩ := List.getElem?_eq_some_iff.mp hfirst
  obtain ⟨hjl, rfl⟩ := List.getElem?_eq_some_iff.mp hsecond
  rcases Nat.lt_trichotomy i j with hij | hij | hij
  · exact absurd rfl (hn i j hil hjl hij id hid id hid')
  · exact hij
  · exact absurd rfl (hn j i hjl hil hij id hid' id hid)

theorem exists_hasId (a : Assertion) (ha : a ∈ scenario.assertions) (id : String)
    (hr : a.response = some id) : ∃ own, scenario.HasId own id := by
  have hnone := List.findSome?_eq_none_iff.mp (ids_of_fault? scenario h).2 a ha
  rw [assertionFault?, hr] at hnone
  have hmem : id ∈ scenario.actionIds := by
    by_contra hn
    split at hnone
    · cases hnone
    · simp [hn] at hnone
  obtain ⟨step, hstep, hid⟩ := List.mem_filterMap.mp hmem
  obtain ⟨own, hown⟩ := List.mem_iff_getElem?.mp hstep
  exact ⟨own, step, hown, hid⟩

/-- The first action with a label is the one that has it as its id, or the one that hides that. -/
theorem label_ne_of_lt (i own : Nat) (id : String) (ho : scenario.HasId own id) (hle : i ≤ own)
    (hh : ∀ j, scenario.Hides j own id → i ≤ j) (j : Nat) (hj : j < i)
    (step : RequestStep) (hs : scenario.actions[j]? = some step) : step.label "action" j ≠ id := by
  intro hl
  cases hid : step.id with
  | none =>
    have hbefore := hh j ⟨by omega, step, hs, hid, hl⟩
    omega
  | some id' =>
    have he : id' = id := by simpa [RequestStep.label, hid] using hl
    have hown := hasId_unique scenario h j own id ⟨step, hs, he ▸ hid⟩ ho
    omega

omit h in
theorem hides_unique (i j own : Nat) (id : String) (hi : scenario.Hides i own id)
    (hj : scenario.Hides j own id) : i = j := by
  obtain ⟨-, first, -, hnone, hl⟩ := hi
  obtain ⟨-, second, -, hnone', hl'⟩ := hj
  rw [RequestStep.label, hnone, Option.getD_none] at hl
  rw [RequestStep.label, hnone', Option.getD_none] at hl'
  exact positionLabel_injective "action" i j (hl.trans hl'.symm)

end Ids

section Run
variable (runner : Runner) (network : Network) (scope : ScopeId) (scenario : Scenario)
  (world : World)

def Answered (i : Nat) (response : Response) : Prop :=
  ∃ step ready begun before reached, scenario.actions[i]? = some step ∧
    (buildFixtures runner scenario scope).exec network world = (.ok (), ready) ∧
    (runSetup runner.client (scenario.retryPolicy runner.client) scope 0 scenario.setup).exec network
      ready = (.ok (), begun) ∧
    (runActions runner.client (scenario.retryPolicy runner.client) scope 0
      (scenario.actions.take i)).exec network begun = (.ok before, reached) ∧
    answer runner.client (scenario.retryPolicy runner.client) network scope step reached =
      .ok response

structure Records (responses : List Labelled) : Prop where
  length : responses.length = scenario.actions.length
  entry : ∀ i step, scenario.actions[i]? = some step → ∃ labelled, responses[i]? = some labelled ∧
    labelled.label = step.label "action" i ∧
    scenario.Answered runner network scope world i labelled.response

/-- An action is answered in one way only. -/
theorem answered_unique (i : Nat) (first second : Response)
    (h : scenario.Answered runner network scope world i first)
    (h' : scenario.Answered runner network scope world i second) : first = second := by
  obtain ⟨step, ready, begun, before, reached, hs, hb, hset, hact, ha⟩ := h
  obtain ⟨step', ready', begun', before', reached', hs', hb', hset', hact', ha'⟩ := h'
  cases hs.symm.trans hs'
  cases hb.symm.trans hb'
  cases hset.symm.trans hset'
  cases hact.symm.trans hact'
  exact Except.ok.inj (ha.symm.trans ha')

end Run

section Actions
variable (client : Client) (retry : RetryPolicy) (network : Network) (scope : ScopeId)

theorem runAction_ok (index : Nat) (step : RequestStep) (world after : World) (labelled : Labelled)
    (h : (runAction client retry scope index step).exec network world = (.ok labelled, after)) :
    labelled.label = step.label "action" index ∧
    answer client retry network scope step world = .ok labelled.response := by
  rw [runAction] at h
  obtain ⟨response, middle, hr, h⟩ := Trial.exec_bind_ok _ _ _ _ _ _ h
  obtain ⟨_, _, _, h⟩ := Trial.exec_bind_ok _ _ _ _ _ _ h
  obtain ⟨_, _, _, h⟩ := Trial.exec_bind_ok _ _ _ _ _ _ h
  cases h
  exact ⟨rfl, by rw [answer, hr]⟩

/-- The responses of actions are kept in the order of the actions, each with the label of its own. -/
theorem runActions_ok (index : Nat) (steps : List RequestStep) (world after : World)
    (responses : List Labelled)
    (h : (runActions client retry scope index steps).exec network world = (.ok responses, after)) :
    responses.length = steps.length ∧
    ∀ i step, steps[i]? = some step → ∃ labelled before reached,
      responses[i]? = some labelled ∧ labelled.label = step.label "action" (index + i) ∧
      (runActions client retry scope index (steps.take i)).exec network world =
        (.ok before, reached) ∧
      answer client retry network scope step reached = .ok labelled.response := by
  induction steps generalizing index world responses with
  | nil =>
    cases h
    exact ⟨rfl, by simp⟩
  | cons first rest ih =>
    rw [runActions] at h
    obtain ⟨labelled, middle, hf, h⟩ := Trial.exec_bind_ok _ _ _ _ _ _ h
    obtain ⟨others, last, hr, h⟩ := Trial.exec_bind_ok _ _ _ _ _ _ h
    cases h
    obtain ⟨hlabel, hanswer⟩ := runAction_ok client retry network scope index first world middle
      labelled hf
    obtain ⟨hlength, hall⟩ := ih (index + 1) middle others hr
    refine ⟨by rw [List.length_cons, List.length_cons, hlength], ?_⟩
    intro i step hs
    cases i with
    | zero =>
      cases hs
      exact ⟨labelled, [], world, rfl, hlabel, rfl, hanswer⟩
    | succ i =>
      -- The entry is one of the rest, whose positions are counted from one further on.
      obtain ⟨own, before, reached, ho, hl, hb, ha⟩ := hall i step hs
      have hindex : index + 1 + i = index + (i + 1) := by omega
      refine ⟨own, labelled :: before, reached, ho, hindex ▸ hl, ?_, ha⟩
      rw [List.take_succ_cons, runActions, Trial.exec_bind_of_ok _ _ _ _ middle labelled hf,
        Trial.exec_bind_of_ok _ _ _ _ reached before hb]
      rfl

end Actions

section Run
variable (runner : Runner) (network : Network) (scope : ScopeId) (scenario : Scenario)
  (world : World)

/-- A run without failure went through its phases, and its report has their verdicts. -/
theorem exec_of_unfailed (h : ((scenario.run runner scope).run network world).1.failure = none) :
    (scenario.runPhases runner scope).exec network world =
      (.ok ((scenario.run runner scope).run network world).1.verdicts,
        scenario.torn runner network scope world) := by
  obtain ⟨seen, -, hf, hv, -, -⟩ := run_eq runner network scope scenario world
  rcases hc : ((scenario.runPhases runner scope).run.within (scenario.timeLimit runner)).run network
    world with ⟨outcome, reached⟩
  have ht : scenario.torn runner network scope world = reached := by rw [torn, hc]
  rw [hc] at hf hv
  rw [hv, ht]
  cases outcome with
  | none => cases hf.symm.trans h
  | some result =>
    cases result with
    | error e => cases hf.symm.trans h
    | ok verdicts => exact Routine.run_of_within network _ _ world reached _ hc

/-- The verdicts of a run without failure are given on the responses of all of its actions. -/
theorem records_of_unfailed (h : ((scenario.run runner scope).run network world).1.failure = none) :
    ∃ responses, scenario.Records runner network scope world responses ∧
      ((scenario.run runner scope).run network world).1.verdicts =
        scenario.verdicts scope responses (scenario.torn runner network scope world) := by
  obtain ⟨ready, begun, responses, hb, hs, ha, hv⟩ :=
    (runPhases_ok_iff runner network scope scenario world _ _).mp
      (exec_of_unfailed runner network scope scenario world h)
  obtain ⟨hlength, hall⟩ := runActions_ok _ _ network scope 0 scenario.actions begun _ responses ha
  refine ⟨responses, ⟨hlength, ?_⟩, hv⟩
  intro i step hstep
  obtain ⟨labelled, before, reached, hl, hlabel, hbefore, hanswer⟩ := hall i step hstep
  rw [Nat.zero_add] at hlabel
  exact ⟨labelled, hl, hlabel, step, ready, begun, before, reached, hstep, hb, hs, hbefore, hanswer⟩

section Verdicts
variable (responses : List Labelled) (hr : scenario.Records runner network scope world responses)
  (value? : String → Option Json) (a : Assertion)
include hr

theorem verdict_of_last (ha : scenario.actions ≠ []) (hn : a.response = none) :
    ∃ response,
      scenario.Answered runner network scope world (scenario.actions.length - 1) response ∧
      a.verdict responses value? = a.verdictOn response value? := by
  have hpos : 0 < scenario.actions.length := List.length_pos_iff.mpr ha
  have hlast : scenario.actions[scenario.actions.length - 1]? =
      some scenario.actions[scenario.actions.length - 1] :=
    List.getElem?_eq_getElem (by omega)
  obtain ⟨labelled, hl, -, hanswer⟩ := hr.entry _ _ hlast
  refine ⟨labelled.response, hanswer, ?_⟩
  apply Assertion.verdict_of_select
  rw [hn, Assertion.select, List.getLast?_eq_getElem?, hr.length, hl]

/-- The first action that goes by an id is the one whose response is read. -/
theorem verdict_of_first (hv : scenario.fault? = none) (id : String) (hn : a.response = some id)
    (i own : Nat) (step : RequestStep) (hs : scenario.actions[i]? = some step)
    (hl : step.label "action" i = id) (ho : scenario.HasId own id) (hle : i ≤ own)
    (hh : ∀ j, scenario.Hides j own id → i ≤ j) :
    ∃ response, scenario.Answered runner network scope world i response ∧
      a.verdict responses value? = a.verdictOn response value? := by
  obtain ⟨labelled, hi, hlabel, hanswer⟩ := hr.entry i step hs
  refine ⟨labelled.response, hanswer, ?_⟩
  apply Assertion.verdict_of_select
  rw [hn]
  apply Assertion.select_of_first responses id i labelled hi (hlabel.trans hl)
  intro j other hj hother
  have hjl : j < scenario.actions.length := by
    have hlt := (List.getElem?_eq_some_iff.mp hother).1
    have hlength := hr.length
    omega
  have hsj : scenario.actions[j]? = some scenario.actions[j] := List.getElem?_eq_getElem hjl
  obtain ⟨found, hfound, hname, -⟩ := hr.entry j _ hsj
  cases hother.symm.trans hfound
  rw [hname]
  exact label_ne_of_lt scenario hv i own id ho hle hh j hj _ hsj

end Verdicts

/-- In a run without failure of a scenario without fault, an assertion that names no action is about
the response of the last action. One that names an action is about the response of the only action
with that id, unless an action in front hides it: then it is about the response of the latter. -/
theorem verdict_reads_named_action (hv : scenario.fault? = none)
    (hf : ((scenario.run runner scope).run network world).1.failure = none) :
    let report := ((scenario.run runner scope).run network world).1
    let value? := (scenario.torn runner network scope world).store.lookup scope
    List.Forall₂ (fun a verdict =>
        (a.response = none → ∃ response,
          scenario.Answered runner network scope world (scenario.actions.length - 1) response ∧
          verdict = a.verdictOn response value?) ∧
        ∀ id, a.response = some id → ∃ own,
          scenario.HasId own id ∧ (∀ other, scenario.HasId other id → other = own) ∧
          ((∀ i, ¬ scenario.Hides i own id) → ∃ response,
            scenario.Answered runner network scope world own response ∧
            verdict = a.verdictOn response value?) ∧
          ∀ i, scenario.Hides i own id → ∃ response,
            scenario.Answered runner network scope world i response ∧
            verdict = a.verdictOn response value?)
      scenario.assertions report.verdicts := by
  intro report value?
  obtain ⟨responses, hr, hverdicts⟩ := records_of_unfailed runner network scope scenario world hf
  have heq : report.verdicts = scenario.assertions.map fun a => a.verdict responses value? :=
    hverdicts
  rw [heq, List.forall₂_map_right_iff, List.forall₂_same]
  intro a ham
  constructor
  · exact verdict_of_last runner network scope scenario world responses hr value? a
      (actions_ne_nil scenario hv)
  · intro name hn
    obtain ⟨own, ho⟩ := exists_hasId scenario hv a ham name hn
    refine ⟨own, ho, fun other hx => hasId_unique scenario hv other own name hx ho, ?_, ?_⟩
    · intro hh
      obtain ⟨step, hstep, hid⟩ := id ho
      have hl : step.label "action" own = name := by rw [RequestStep.label, hid, Option.getD_some]
      exact verdict_of_first runner network scope scenario world responses hr value? a hv name hn
        own own step hstep hl ho (Nat.le_refl own) fun j hj => absurd hj (hh j)
    · intro i hi
      obtain ⟨hlt, step, hstep, -, hl⟩ := id hi
      have hbefore (j : Nat) (hj : scenario.Hides j own name) : i ≤ j :=
        Nat.le_of_eq (hides_unique scenario i j own name hi hj)
      exact verdict_of_first runner network scope scenario world responses hr value? a hv name hn
        i own step hstep hl ho (Nat.le_of_lt hlt) hbefore

end Run

def mistaken : Scenario where
  name := "mistaken"
  actions := [
    { request := .new .get "/things" },
    { id := some "action#1", request := .new .post "/things" }]
  assertions := [(Assertion.ofStatus "created" 201).on "action#1"]

def creating : Network := fun _ request =>
  .answered 0 ⟨if request.method = .post then 201 else 200, [], []⟩

/-- The second action is answered as the assertion about it wants, and the response of the first is
taken for its own. -/
theorem verdict_reads_named_action_mistaken :
    let runner : Runner := { registry := [], client := .new "http://api.test" 30000 }
    let world : World := ⟨[⟨"root", none, []⟩], [], []⟩
    let report := ((mistaken.run runner 0).run creating world).1
    mistaken.fault? = none ∧ report.failure = none ∧ mistaken.HasId 1 "action#1" ∧
    report.exchanges.map (fun e => (e.label, e.status)) = [("action#1", 200), ("action#1", 201)] ∧
    report.verdicts = [⟨"created", false, some "expected status 201, got 200 (body: )"⟩] ∧
    ∃ response, mistaken.Answered runner creating 0 world 0 response ∧
      report.verdicts = mistaken.assertions.map fun a => a.verdictOn response
        ((mistaken.torn runner creating 0 world).store.lookup 0) := by
  intro runner world report
  have hv : mistaken.fault? = none := by decide
  have hf : report.failure = none := by decide +kernel
  have hverdicts : report.verdicts =
      [⟨"created", false, some "expected status 201, got 200 (body: )"⟩] := by decide +kernel
  have hid : mistaken.HasId 1 "action#1" := ⟨_, rfl, rfl⟩
  refine ⟨hv, hf, hid, by decide +kernel, hverdicts, ?_⟩
  have h := verdict_reads_named_action runner creating 0 mistaken world hv hf
  change List.Forall₂ _ mistaken.assertions report.verdicts at h
  rw [hverdicts] at h
  cases h with
  | cons hfirst _ =>
    obtain ⟨own, -, hown, -, hhidden⟩ := hfirst.2 "action#1" rfl
    have hsecond : 1 = own := hown 1 hid
    obtain ⟨response, hanswer, hx⟩ := hhidden 0 ⟨by omega, _, rfl, rfl, rfl⟩
    refine ⟨response, hanswer, ?_⟩
    rw [hverdicts, hx]
    rfl

end Scenario

end ApiTrial
