import ApiTrial.Command.Basic
import ApiTrial.Config
import ApiTrial.Files.Load
import ApiTrial.Fixture.Ticketing
import ApiTrial.Scenario.Console

/-!
Carrying out commands. Everything is read and found in order before the first request is sent.
-/
namespace ApiTrial

/-- What commands find around them: files, the variables of the process, the path where the
configuration usually is, a network, and a schedule by which lanes take turns. -/
structure Surroundings where
  files : Files
  process : String → Option String := fun _ => none
  usualConfig? : Option String := none
  network : Network := Network.unreachable
  schedule : List Nat := []

/-- What a command has done: the lines that it tells, how it ended, and the world behind it. -/
structure Outcome where
  lines : List String := []
  result : Except Error Unit := .ok ()
  world : World := { store := [] }

/-- What a command works with: a configuration, fixtures and the variables set at the start. -/
structure Bench where
  config : Config
  runner : Runner
  world : World

def Bench.scope : ScopeId := 0

namespace Bench

def new (config : Config) (recipes : List Recipe) : Bench :=
  let (store, scope) := Store.addRoot []
  let registry := Registry.registerAll [] (Ticketing.fixtures ++ recipes.map Recipe.fixture)
  { config
    runner := ⟨registry, config.client, config.runner.scenarioTimeoutSecs * 1000⟩
    world := { store := config.seed scope store } }

def connect (around : Surroundings) (connection : Connection) : Except Error Bench := do
  let config ← Config.load around.files around.process around.usualConfig? connection.config
  let recipes ← match connection.fixtures with
    | some directory => around.files.recipes directory
    | none => pure []
  return new (config.withServer connection.server) recipes

end Bench

namespace Command

/-- A parameter written as a key and a value; a value that is JSON keeps its kind. -/
def parseParam (item : String) : Except Error (String × Json) :=
  match item.toList.span (· != '=') with
  | (key, _ :: value) =>
    let value := String.ofList value
    .ok (Text.trim (String.ofList key), (Json.parse? value).getD (.str value))
  | (_, []) => .error (.config s!"Invalid parameter '{item}', expected key=value")

/-- Parameters, the last one of each key. -/
def parseParams (items : List String) : Except Error Fixture.Params := do
  return Table.ofEntries (← items.mapM parseParam)

/-- The end of a run: an error if a scenario has failed. -/
def verdict (suite : SuiteReport) : Except Error Unit :=
  if suite.allPassed then .ok ()
  else .error (.assertionFailure s!"{suite.failed} of {suite.reports.length} scenarios failed")

def runScenarios (around : Surroundings) (bench : Bench) (look : Console.Look) (parallel : Bool)
    (scenarios : List LoadedScenario) : Outcome :=
  let (suite, world) := Suite.run bench.runner around.network
    (parallel || bench.config.runner.parallel) scenarios Bench.scope bench.world around.schedule
  ⟨Console.suiteLines look suite, verdict suite, world⟩

/-- The end of a check: an error if there are findings. -/
def checkOutcome (look : Console.Look) (count : Nat) (findings : List Finding) : Outcome :=
  if findings.isEmpty then { lines := [Console.soundLine look count] }
  else
    { lines := findings.map (Console.findingLine look)
      result := .error (.config s!"{findings.length} problem(s) found in scenarios") }

/-- Carries out a command that has an outcome or an error before anything is told. -/
def settle : Except Error Outcome → Outcome
  | .ok outcome => outcome
  | .error e => { result := .error e }

def execute (around : Surroundings) (colours : Bool) : Command → Outcome
  | .run paths connection filter parallel verbose => settle do
    let bench ← Bench.connect around connection
    let loaded ← around.files.scenarios (scenarioPaths paths)
    let scenarios := Suite.filtered filter loaded
    if scenarios.isEmpty then return { lines := ["No scenarios to run"] }
    return runScenarios around bench { colours, verbose } parallel scenarios
  | .check paths connection => settle do
    let bench ← Bench.connect around connection
    let loaded ← around.files.scenarios (scenarioPaths paths)
    let seeded := (bench.world.store.snapshot Bench.scope).keys
    let findings := Check.findings bench.runner.registry seeded (loaded.map (·.scenario))
    return checkOutcome { colours } loaded.length findings
  | .fixtures directory => settle do
    let bench ← Bench.connect around { fixtures := directory }
    let lines := bench.runner.registry.sorted.flatMap (Console.fixtureLines { colours })
    return { lines }
  | .fixture name params connection => settle do
    let bench ← Bench.connect around connection
    let params ← parseParams params
    let build := Fixture.buildCall bench.runner.registry bench.runner.client Bench.scope
      { name, params }
    let (result, world) := build.run.run around.network bench.world
    match result with
    | .ok outputs => return { lines := Console.outputLines { colours } name outputs, world }
    | .error e => return { result := .error e, world }

end Command

end ApiTrial
