import ApiTrial.Scenario.Filter
import ApiTrial.Scenario.Run
import ApiTrial.Routine.Run

/-!
Suites: scenarios run one after the other, or in lanes side by side. The scenarios of a group make
one lane in a scope of their own, and those without a group one lane in the scope of the suite. The
reports come in the order of the scenarios.
-/
namespace ApiTrial

/-- A scenario with the file that it was read from. -/
structure LoadedScenario where
  path : Option String := none
  scenario : Scenario

namespace Suite

/-- The scenarios that a filter keeps. -/
def filtered (filter : Option String) (scenarios : List LoadedScenario) : List LoadedScenario :=
  match filter with
  | some filter => scenarios.filter fun s => s.scenario.matchesFilter filter
  | none => scenarios

/-- Runs scenarios one after the other in one scope. -/
def runLane (runner : Runner) (scope : ScopeId) : List LoadedScenario → Routine (List Report)
  | [] => pure []
  | loaded :: rest => do
    let report ← loaded.scenario.run runner scope
    let others ← runLane runner scope rest
    return { report with path := loaded.path } :: others

/-- The groups of a suite, in order. -/
def groups (scenarios : List LoadedScenario) : List String :=
  (Table.ofEntries ((scenarios.filterMap fun s => s.scenario.group).map fun g => (g, ()))).keys

/-- The scenarios of a lane with their positions in the suite. -/
def members (scenarios : List LoadedScenario) (group : Option String) :
    List (LoadedScenario × Nat) :=
  scenarios.zipIdx.filter fun s => s.1.scenario.group == group

/-- Opens one scope for each group below the scope of the suite. -/
def openScopes (scope : ScopeId) : List String → World → List ScopeId × World
  | [], world => ([], world)
  | group :: rest, world =>
    let (store, lane) := world.store.isolate scope group
    let (lanes, world) := openScopes scope rest { world with store }
    (lane :: lanes, world)

/-- Reports with their positions, put in the order of the positions. -/
def inOrder (reports : List (Nat × Report)) : List Report :=
  (reports.mergeSort fun a b => decide (a.1 ≤ b.1)).map (·.2)

/-- The reports of a suite whose lanes take turns as a schedule says. Builds under way are shared by
callers whose scopes have the same path (`Fixture.buildTogether`), but not by lanes: each lane has a
scope with a path of its own, so the keys of its builds (`Fixture.Caller.shareKey`) are its own. Only
group or fixture names with `::` in them could make two keys meet, and even then each lane commits
what is built to its own scope. -/
def runLanes (runner : Runner) (network : Network) (schedule : List Nat)
    (scenarios : List LoadedScenario) (scope : ScopeId) (world : World) : List Report × World :=
  let groups := groups scenarios
  let (scopes, world) := openScopes scope groups world
  -- The first lane works in the scope of the suite, each other one in a scope below it.
  let lanes := (members scenarios none, scope) ::
    (groups.map fun group => members scenarios (some group)).zip scopes
  let routines := lanes.map fun lane => runLane runner lane.2 (lane.1.map (·.1))
  let (reports, world) := Routine.runLanes network schedule routines world
  -- Lanes may end in any order, so every report is put back at the position of its scenario.
  let placed := (lanes.zip reports).flatMap fun (lane, reports) =>
    (lane.1.map (·.2)).zip reports
  (inOrder placed, world)

/-- The reports of a suite run in order. -/
def runInOrder (runner : Runner) (network : Network) (scenarios : List LoadedScenario)
    (scope : ScopeId) (world : World) : List Report × World :=
  (runLane runner scope scenarios).run network world

/-- Runs a suite, in lanes that take turns as a schedule says, or in order. -/
def run (runner : Runner) (network : Network) (parallel : Bool) (scenarios : List LoadedScenario)
    (scope : ScopeId) (world : World) (schedule : List Nat := []) : SuiteReport × World :=
  let (reports, world) :=
    if parallel then runLanes runner network schedule scenarios scope world
    else runInOrder runner network scenarios scope world
  ({ reports }, world)

end Suite

end ApiTrial
