import ApiTrial.Proofs.LaneWrites
import ApiTrial.Proofs.RunLifecycle
import ApiTrial.Proofs.SuiteOrder

/-! Suites run in lanes. Whatever the schedule, each lane carries its scenarios through in order and
each report comes to the position of its scenario; a lane of a group writes to the scope of the
group, which no other lane and no scope of before reads. Without groups there is one lane, and the
run is the one in order. -/
namespace ApiTrial

open Routine (Turn Takes Linked Interleaves)

section Courses
variable (network : Network) (runner : Runner) (scope : ScopeId)

def LoadedScenario.Comes (loaded : LoadedScenario) (turns : List Turn) (report : Report) : Prop :=
  ∃ bare, Takes network (loaded.scenario.run runner scope) turns bare ∧
    report = { bare with path := loaded.path }

theorem LoadedScenario.named_of_comes (loaded : LoadedScenario) (turns : List Turn)
    (report : Report) (h : loaded.Comes network runner scope turns report) :
    report.name = loaded.scenario.name ∧ report.path = loaded.path := by
  obtain ⟨bare, ht, rfl⟩ := h
  refine ⟨?_, rfl⟩
  obtain ⟨⟨seen, outcome⟩, _, turns, -, -, ht⟩ := Routine.takes_bind network _ _ _ _ ht
  obtain ⟨⟨late, errors⟩, _, turns, -, -, ht⟩ := Routine.takes_bind network _ _ _ _ ht
  obtain ⟨-, rfl⟩ := Routine.eq_of_takes_done network _ _ _ ht
  rfl

namespace Suite

/-- A lane carries its scenarios through one after the other. -/
theorem courses_of_runLane (scenarios : List LoadedScenario) (turns : List Turn)
    (reports : List Report) (h : Takes network (runLane runner scope scenarios) turns reports) :
    ∃ courses : List (List Turn × Report), turns = (courses.map (·.1)).flatten ∧
      reports = courses.map (·.2) ∧ List.Forall₂ (fun loaded course =>
        loaded.Comes network runner scope course.1 course.2) scenarios courses := by
  induction scenarios generalizing turns reports with
  | nil =>
    obtain ⟨rfl, rfl⟩ := Routine.eq_of_takes_done network _ _ _ h
    exact ⟨[], rfl, rfl, .nil⟩
  | cons loaded rest ih =>
    obtain ⟨bare, first, others, rfl, hbare, h⟩ := Routine.takes_bind network _ _ _ _ h
    obtain ⟨later, second, last, rfl, hlater, h⟩ := Routine.takes_bind network _ _ _ _ h
    obtain ⟨rfl, rfl⟩ := Routine.eq_of_takes_done network _ _ _ h
    obtain ⟨courses, rfl, rfl, hcourses⟩ := ih second later hlater
    refine ⟨(first, { bare with path := loaded.path }) :: courses, ?_, rfl,
      .cons ⟨bare, hbare, rfl⟩ hcourses⟩
    rw [List.append_nil, List.map_cons, List.flatten_cons]

/-- A run in order gives one report for each scenario. -/
theorem named_runInOrder (scenarios : List LoadedScenario) (world : World) :
    (runInOrder runner network scenarios scope world).1.map (fun r => (r.name, r.path)) =
      scenarios.map fun s => (s.scenario.name, s.path) := by
  obtain ⟨turns, ht⟩ := Routine.exists_takes_run network (runLane runner scope scenarios) world
  obtain ⟨courses, -, hreports, hcourses⟩ :=
    courses_of_runLane network runner scope scenarios turns _ ht
  rw [runInOrder, hreports]
  clear ht hreports
  induction hcourses with
  | nil => rfl
  | cons hcomes _ ih =>
    obtain ⟨hname, hpath⟩ := LoadedScenario.named_of_comes network runner scope _ _ _ hcomes
    rw [List.map_cons, List.map_cons, List.map_cons, ih, hname, hpath]

end Suite

end Courses

namespace Suite

section Lanes
variable (runner : Runner) (network : Network) (scenarios : List LoadedScenario)

/-- The turns of a lane carry its scenarios through in the order of the suite, and each of them
comes to the report at its position. -/
def Lane.CarriesOut (lane : Lane) (reports : List Report) (turns : List Turn) : Prop :=
  ∃ courses : List (List Turn × Report), turns = (courses.map (·.1)).flatten ∧
    List.Forall₂ (fun member course =>
      member.1.Comes network runner lane.scope course.1 course.2 ∧
        reports[member.2]? = some course.2) (members scenarios lane.group) courses

structure Carried (lanes : List Lane) (turns : List Turn) (results : List (List Report)) :
    Prop where
  lengths : results.length = lanes.length
  courses : ∀ (i : Nat) (lane : Lane), lanes[i]? = some lane →
    ∃ courses : List (List Turn × Report),
      (turns.filter fun turn => turn.lane == i) = (courses.map (·.1)).flatten ∧
      results[i]? = some (courses.map (·.2)) ∧
      List.Forall₂ (fun member course => member.1.Comes network runner lane.scope course.1 course.2)
        (members scenarios lane.group) courses

/-- Lanes that take turns each carry out their scenarios. -/
theorem carried_of_interleaves (lanes : List Lane) (world final : World) (turns : List Turn)
    (results : List (List Report)) (hl : results.length = lanes.length)
    (h : Interleaves network (lanes.map (Lane.routine runner scenarios)) world turns results
      final) : Carried runner network scenarios lanes turns results where
  lengths := hl
  courses := by
    intro i lane hlane
    have hroutine : (lanes.map (Lane.routine runner scenarios))[i]? =
        some (lane.routine runner scenarios) := by
      rw [List.getElem?_map, hlane, Option.map_some]
    obtain ⟨reports, hreports, ht⟩ :=
      Routine.takes_of_interleaves network _ _ _ _ _ i _ h hroutine
    obtain ⟨courses, hturns, rfl, hcourses⟩ :=
      courses_of_runLane network runner lane.scope _ _ _ ht
    exact ⟨courses, hturns, hreports, List.forall₂_map_left_iff.mp hcourses⟩

section Carried
variable (scope first : Nat) (turns : List Turn) (results : List (List Report))
  (h : Carried runner network scenarios (lanes scenarios scope first) turns results)
include h

theorem perm_of_carried : ((placed scenarios (lanes scenarios scope first) results).map (·.1)).Perm
    (List.range scenarios.length) := by
  rw [positions_placed]
  · exact perm_positions scenarios scope first
  · rw [List.forall₂_iff_get]
    refine ⟨h.lengths.symm, ?_⟩
    intro i hi hi'
    obtain ⟨courses, -, hresult, hcourses⟩ := h.courses i _ (List.getElem?_eq_getElem hi)
    have he : results[i] = courses.map (·.2) :=
      Option.some.inj ((List.getElem?_eq_getElem hi').symm.trans hresult)
    rw [List.get_eq_getElem, List.get_eq_getElem, he, List.length_map, hcourses.length_eq]

/-- A lane carries out its scenarios, and their reports stand at their positions. -/
theorem carriesOut_of_carried (i : Nat) (lane : Lane)
    (hlane : (lanes scenarios scope first)[i]? = some lane) :
    lane.CarriesOut runner network scenarios
      (inOrder (placed scenarios (lanes scenarios scope first) results))
      (turns.filter fun turn => turn.lane == i) := by
  obtain ⟨courses, hturns, hresult, hcourses⟩ := h.courses i lane hlane
  have hperm := perm_of_carried runner network scenarios scope first turns results h
  obtain ⟨hlength, hcomes⟩ := List.forall₂_iff_zip.mp hcourses
  refine ⟨courses, hturns, List.forall₂_iff_zip.mpr ⟨hlength, ?_⟩⟩
  intro member course hmem
  -- The report of a course is placed at the position of its scenario.
  refine ⟨hcomes hmem, (getElem?_inOrder _ _ hperm _ _).mpr ?_⟩
  refine (mem_placed _ _ _ _).mpr ⟨i, lane, _, hlane, hresult, ?_⟩
  rw [List.zip_map]
  exact List.mem_map_of_mem (f := Prod.map _ _) hmem

/-- What is placed at a position is a report of the scenario there. -/
theorem named_of_carried (position : Nat) (report : Report)
    (hmem : (position, report) ∈ placed scenarios (lanes scenarios scope first) results) :
    ∃ s, scenarios[position]? = some s ∧ report.name = s.scenario.name ∧ report.path = s.path := by
  obtain ⟨i, lane, reports, hlane, hreports, hzip⟩ := (mem_placed _ _ _ _).mp hmem
  obtain ⟨courses, -, hresult, hcourses⟩ := h.courses i lane hlane
  cases hreports.symm.trans hresult
  rw [List.zip_map] at hzip
  obtain ⟨⟨member, course⟩, hpair, he⟩ := List.mem_map.mp hzip
  cases he
  have hnamed := LoadedScenario.named_of_comes network runner lane.scope _ _ _
    ((List.forall₂_iff_zip.mp hcourses).2 hpair)
  have hin : member ∈ scenarios.zipIdx := List.mem_of_mem_filter (List.of_mem_zip hpair).1
  exact ⟨member.1, List.mem_zipIdx_iff_getElem?.mp hin, hnamed⟩

/-- The reports of a suite are named in the order of its scenarios. -/
theorem names_of_carried :
    (inOrder (placed scenarios (lanes scenarios scope first) results)).map
      (fun r => (r.name, r.path)) = scenarios.map fun s => (s.scenario.name, s.path) := by
  have hperm := perm_of_carried runner network scenarios scope first turns results h
  apply List.ext_getElem?
  intro i
  rw [List.getElem?_map, List.getElem?_map]
  cases hs : scenarios[i]? with
  | none =>
    cases hr : (inOrder (placed scenarios (lanes scenarios scope first) results))[i]? with
    | none => rfl
    | some report =>
      obtain ⟨s, hx, -⟩ := named_of_carried runner network scenarios scope first turns results h i
        report ((getElem?_inOrder _ _ hperm _ _).mp hr)
      cases hs.symm.trans hx
  | some s =>
    have hi := List.mem_range.mpr (List.getElem?_eq_some_iff.mp hs).1
    obtain ⟨⟨position, report⟩, hmem, he⟩ := List.mem_map.mp (hperm.mem_iff.mpr hi)
    cases he
    obtain ⟨other, hx, hname, hpath⟩ := named_of_carried runner network scenarios scope first turns
      results h _ report hmem
    cases hs.symm.trans hx
    rw [(getElem?_inOrder _ _ hperm _ _).mpr hmem, Option.map_some, Option.map_some, hname, hpath]

end Carried

end Lanes

section Scopes
variable (scope first top : Nat)

structure Opened (world : World) : Prop where
  reached : top ≤ world.store.length
  below : ∀ id, first ≤ id → id < top →
    (world.store.scope? id).map Scope.parent = some (some scope)

theorem length_openScopes (groups : List String) (world : World) :
    (openScopes scope groups world).2.store.length = world.store.length + groups.length := by
  induction groups generalizing world with
  | nil => rfl
  | cons group rest ih =>
    have hrest := ih { world with store := (world.store.isolate scope group).1 }
    rw [List.length_cons]
    refine hrest.trans ?_
    show world.store.length + 1 + rest.length = _
    omega

theorem spares_openScopes (groups : List String) (world : World) (h : top ≤ world.store.length) :
    Store.Spares top none world.store (openScopes scope groups world).2.store := by
  induction groups generalizing world with
  | nil => exact Store.spares_refl top none world.store
  | cons group rest ih =>
    have hrest := ih { world with store := (world.store.isolate scope group).1 }
      (h.trans (Nat.le_succ _))
    exact Store.spares_trans top none _ _ _ (Store.spares_cons top none world.store _ h) hrest

theorem opened_openScopes (groups : List String) (world : World) :
    Opened scope world.store.length (world.store.length + groups.length)
      (openScopes scope groups world).2 where
  reached := (length_openScopes scope groups world).ge
  below := by
    induction groups generalizing world with
    | nil => exact fun id hlow hhigh => absurd hhigh hlow.not_gt
    | cons group rest ih =>
      intro id hlow hhigh
      rw [List.length_cons] at hhigh
      rcases Nat.eq_or_lt_of_le hlow with rfl | hlt
      · have hkept := (spares_openScopes scope (world.store.length + 1) rest
          { world with store := (world.store.isolate scope group).1 } (Nat.le_refl _)).parents
          world.store.length (Nat.lt_succ_self _)
        refine hkept.trans ?_
        rw [Store.isolate, Store.scope?, if_pos rfl]
        rfl
      · exact ih { world with store := (world.store.isolate scope group).1 } id hlt
          (by show id < world.store.length + 1 + rest.length; omega)

/-- A step of one lane leaves the groups their scopes. -/
theorem opened_of_spares (own : Option ScopeId) (before after : World)
    (h : Opened scope first top before) (hs : Store.Spares top own before.store after.store) :
    Opened scope first top after where
  reached := h.reached.trans hs.grows
  below := fun id hlow hhigh => (hs.parents id hhigh).trans (h.below id hlow hhigh)

end Scopes

section Run
variable (runner : Runner) (network : Network) (schedule : List Nat)
  (scenarios : List LoadedScenario) (scope : ScopeId) (world : World)

/-- In every turn the scopes of the groups are there, and only the one of the lane is written to. -/
theorem turns_spare (hp : ∀ fixture ∈ runner.registry, fixture.Private) (lanes : List Lane)
    (first top : Nat) (final : World) (turns : List Turn) (results : List (List Report))
    (hw : Opened scope first top world)
    (h : Interleaves network (lanes.map (Lane.routine runner scenarios)) world turns results
      final) :
    ∀ turn ∈ turns, Opened scope first top turn.before ∧ Store.Spares top
      (lanes[turn.lane]?.map Lane.scope) turn.before.store turn.after.store := by
  refine Routine.turns_of_guarantees (Opened scope first top) (fun i before after =>
    Store.Spares top (lanes[i]?.map Lane.scope) before.store after.store) (fun _ => True)
    (fun i before after hb hs => opened_of_spares scope first top _ before after hb hs) network _
    world final turns results h ?_ hw
  intro i routine hroutine
  rw [List.getElem?_map] at hroutine
  obtain ⟨lane, hlane, rfl⟩ := Option.map_eq_some_iff.mp hroutine
  rw [hlane, Option.map_some]
  exact Routine.guarantees_mono _ _ _ _ _ _ (spares_runLane top runner lane.scope hp _)
    (fun _ hb => hb.reached) fun _ _ hs => hs

/-- A turn of the lane of a group is seen from no scope of before and from no other lane. -/
theorem lookup_of_turn (first : Nat) (hscope : scope < first) (turn : Turn) (lane : Lane)
    (hopened : Opened scope first (first + (groups scenarios).length) turn.before)
    (hspares : Store.Spares (first + (groups scenarios).length)
      ((lanes scenarios scope first)[turn.lane]?.map Lane.scope) turn.before.store turn.after.store)
    (hlane : (lanes scenarios scope first)[turn.lane]? = some lane)
    (hgroup : lane.group.isSome = true) (key : String) :
    (∀ id < first, turn.after.store.lookup id key = turn.before.store.lookup id key) ∧
    ∀ (i : Nat) (other : Lane), (lanes scenarios scope first)[i]? = some other → i ≠ turn.lane →
      turn.after.store.lookup other.scope key = turn.before.store.lookup other.scope key := by
  rw [hlane, Option.map_some] at hspares
  obtain ⟨hlow, hhigh⟩ := scope_of_group scenarios scope first _ lane hlane hgroup
  have hbefore : ∀ id < first,
      turn.after.store.lookup id key = turn.before.store.lookup id key := by
    intro id hid
    exact Store.lookup_of_spares _ _ _ lane.scope hspares id key (Nat.lt_add_right _ hid)
      (hid.trans_le hlow)
  refine ⟨hbefore, ?_⟩
  intro i other hother hne
  cases hg : other.group with
  | none =>
    rw [scope_of_none scenarios scope first i other hother hg]
    exact hbefore scope hscope
  | some group =>
    have hog : other.group.isSome = true := by rw [hg]; rfl
    obtain ⟨holow, hohigh⟩ := scope_of_group scenarios scope first i other hother hog
    have hdistinct : other.scope ≠ lane.scope := fun he =>
      hne (eq_of_scope_eq scenarios scope first i turn.lane other lane hother hlane hog hgroup he)
    exact Store.lookup_of_spares_beside _ _ _ lane.scope scope hspares other.scope key hohigh
      hdistinct (hopened.below other.scope holow hohigh) (hscope.trans_le hlow)
      (hscope.trans_le holow)

/-- Without groups, lanes are the suite run in order. -/
theorem runLanes_of_ungrouped (h : ∀ s ∈ scenarios, s.scenario.group = none) :
    runLanes runner network schedule scenarios scope world =
      runInOrder runner network scenarios scope world := by
  have hgroups := groups_eq_nil scenarios h
  have hmembers : members scenarios none = scenarios.zipIdx := by
    rw [members, List.filter_eq_self]
    intro s hs
    have hin := List.mem_of_getElem? (List.mem_zipIdx_iff_getElem?.mp hs)
    rw [h s.1 hin]
    rfl
  have hlanes : lanes scenarios scope world.store.length = [⟨none, scope⟩] := by
    rw [lanes, hgroups]
    rfl
  have hroutine : Lane.routine runner scenarios ⟨none, scope⟩ =
      runLane runner scope scenarios := by
    rw [Lane.routine, hmembers, List.zipIdx_map_fst]
  have hlength := congrArg List.length (named_runInOrder network runner scope scenarios world)
  rw [List.length_map, List.length_map] at hlength
  rw [runLanes_eq, hlanes, List.map_cons, List.map_nil, hroutine, hgroups,
    Routine.runLanes_singleton]
  have hplaced : placed scenarios [⟨none, scope⟩]
      [(runInOrder runner network scenarios scope world).1] =
      (List.range (runInOrder runner network scenarios scope world).1.length).zip
        (runInOrder runner network scenarios scope world).1 := by
    rw [placed, List.zip_cons_cons, List.flatMap_cons, hmembers, List.zipIdx_map_snd,
      ← List.range_eq_range', hlength]
    exact List.append_nil _
  exact Prod.ext ((congrArg inOrder hplaced).trans (inOrder_zip_range _)) rfl

/-- The turns of a run in lanes: each lane is carried out, and the reports are those of the
lanes. -/
theorem exists_turns : ∃ turns results,
    let among := lanes scenarios scope world.store.length
    Interleaves network (among.map (Lane.routine runner scenarios))
      (openScopes scope (groups scenarios) world).2 turns results
      (runLanes runner network schedule scenarios scope world).2 ∧
    Carried runner network scenarios among turns results ∧
    (runLanes runner network schedule scenarios scope world).1 =
      inOrder (placed scenarios among results) := by
  have hrun := runLanes_eq runner network schedule scenarios scope world
  obtain ⟨turns, hturns⟩ := Routine.exists_interleaves network schedule
    ((lanes scenarios scope world.store.length).map (Lane.routine runner scenarios))
    (openScopes scope (groups scenarios) world).2
  have hlength := Routine.length_runLanes network schedule
    ((lanes scenarios scope world.store.length).map (Lane.routine runner scenarios))
    (openScopes scope (groups scenarios) world).2
  rw [List.length_map] at hlength
  rw [hrun]
  exact ⟨turns, _, hturns,
    carried_of_interleaves runner network scenarios _ _ _ turns _ hlength hturns, rfl⟩

/-- A suite gives one report for each scenario, in the order of the suite. -/
theorem named_run (parallel : Bool) :
    (run runner network parallel scenarios scope world schedule).1.reports.map
      (fun r => (r.name, r.path)) = scenarios.map fun s => (s.scenario.name, s.path) := by
  cases parallel with
  | true =>
    obtain ⟨turns, results, -, hcarried, hreports⟩ :=
      exists_turns runner network schedule scenarios scope world
    refine (congrArg _ hreports).trans ?_
    exact names_of_carried runner network scenarios scope world.store.length turns results hcarried
  | false => exact named_runInOrder network runner scope scenarios world

/-- A run in lanes, whatever their schedule, gives one report for each scenario, in the order of the
suite. Its turns lead from the world with the scopes of the groups, from which everything else is
seen as before, to the world behind the run, and each lane carries its scenarios through in order. A
turn of a group's lane changes nothing that is seen from a scope of before or from another lane.
Without groups the run is the one in order. -/
theorem parallel_reports_and_scopes (hscope : scope < world.store.length)
    (hp : ∀ fixture ∈ runner.registry, fixture.Private) :
    let among := lanes scenarios scope world.store.length
    let opened := (openScopes scope (groups scenarios) world).2
    let outcome := run runner network true scenarios scope world schedule
    outcome.1.reports.map (fun r => (r.name, r.path)) =
      scenarios.map (fun s => (s.scenario.name, s.path)) ∧
    (∀ id < world.store.length, ∀ key, opened.store.lookup id key = world.store.lookup id key) ∧
    (∃ turns, Linked opened turns outcome.2 ∧ (∀ turn ∈ turns, turn.lane < among.length) ∧
      (∀ (i : Nat) (lane : Lane), among[i]? = some lane →
        lane.CarriesOut runner network scenarios outcome.1.reports
          (turns.filter fun turn => turn.lane == i)) ∧
      ∀ turn ∈ turns, ∀ lane, among[turn.lane]? = some lane → lane.group.isSome = true → ∀ key,
        (∀ id < world.store.length,
          turn.after.store.lookup id key = turn.before.store.lookup id key) ∧
        ∀ (i : Nat) (other : Lane), among[i]? = some other → i ≠ turn.lane →
          turn.after.store.lookup other.scope key = turn.before.store.lookup other.scope key) ∧
    ((∀ s ∈ scenarios, s.scenario.group = none) →
      outcome = run runner network false scenarios scope world schedule) := by
  intro among opened outcome
  obtain ⟨turns, results, hturns, hcarried, hreports⟩ :=
    exists_turns runner network schedule scenarios scope world
  have hspare := turns_spare runner network scenarios scope opened hp among world.store.length
    (world.store.length + (groups scenarios).length) _ turns _
    (opened_openScopes scope (groups scenarios) world) hturns
  refine ⟨?_, ?_, ⟨turns, ?_, ?_, ?_, ?_⟩, ?_⟩
  · exact named_run runner network schedule scenarios scope world true
  · intro id hid key
    exact Store.lookup_of_spares world.store.length _ _ world.store.length
      (Store.spares_of_none _ _ _ _
        (spares_openScopes scope _ (groups scenarios) world (Nat.le_refl _))) id key hid hid
  · exact Routine.linked_of_interleaves network _ _ _ turns _ hturns
  · have hlt := Routine.lane_lt_of_interleaves network _ _ _ turns _ hturns
    rwa [List.length_map] at hlt
  · intro i lane hlane
    have hcarries := carriesOut_of_carried runner network scenarios scope world.store.length turns _
      hcarried i lane hlane
    rwa [← hreports] at hcarries
  · intro turn hturn lane hlane hgroup key
    obtain ⟨hopened, hwritten⟩ := hspare turn hturn
    exact lookup_of_turn scenarios scope world.store.length hscope turn lane hopened hwritten hlane
      hgroup key
  · intro h
    have hsame := runLanes_of_ungrouped runner network schedule scenarios scope world h
    exact congrArg (fun ran : List Report × World => (({ reports := ran.1 } : SuiteReport), ran.2))
      hsame

end Run

def keeping (name group : String) : LoadedScenario where
  scenario := {
    name
    group := some group
    actions := [{ request := .new .post "/things", capture := [("id", "/id")] }] }

/-- Two groups keep an id under the same key, and take turns while they wait. -/
theorem parallel_reports_and_scopes_keeping :
    let network : Network := fun _ _ => .answered 1 ⟨201, [], [123, 34, 105, 100, 34, 58, 55, 125]⟩
    let world : World := ⟨[⟨"root", none, []⟩], [], []⟩
    let outcome := run Scenario.ticketingRunner network true
      [keeping "a" "first", keeping "b" "second"] 0 world [1, 2, 1, 2, 2, 1]
    0 < world.store.length ∧ (∀ fixture ∈ Scenario.ticketingRunner.registry, fixture.Private) ∧
    outcome.1.reports.map (fun r => (r.name, r.path)) = [("a", none), ("b", none)] ∧
    ∃ turns, Linked (openScopes 0 ["first", "second"] world).2 turns outcome.2 ∧
      ∀ turn ∈ turns, turn.lane = 1 → ∀ key,
        turn.after.store.lookup 0 key = turn.before.store.lookup 0 key ∧
        turn.after.store.lookup 2 key = turn.before.store.lookup 2 key := by
  intro network world
  have hp := Fixture.private_of_isStandard Ticketing.fixtures fun _ h => Or.inl h
  obtain ⟨hnames, -, ⟨turns, hlinked, -, -, happart⟩, -⟩ := parallel_reports_and_scopes
    Scenario.ticketingRunner network [1, 2, 1, 2, 2, 1]
    [keeping "a" "first", keeping "b" "second"] 0 world Nat.zero_lt_one hp
  have hfirst : (lanes [keeping "a" "first", keeping "b" "second"] 0 1)[1]? =
      some ⟨some "first", 1⟩ := by rfl
  have hsecond : (lanes [keeping "a" "first", keeping "b" "second"] 0 1)[2]? =
      some ⟨some "second", 2⟩ := by rfl
  refine ⟨Nat.zero_lt_one, hp, hnames, turns, hlinked, ?_⟩
  intro turn hturn hlane key
  have hat : (lanes [keeping "a" "first", keeping "b" "second"] 0 1)[turn.lane]? =
      some ⟨some "first", 1⟩ := by
    rw [hlane]
    exact hfirst
  obtain ⟨hroot, hother⟩ := happart turn hturn _ hat rfl key
  exact ⟨hroot 0 Nat.zero_lt_one, hother 2 _ hsecond (by omega)⟩

end Suite

end ApiTrial
