import ApiTrial.Fixture.Plan
import ApiTrial.Scenario.Suite

/-!
Checks without sending anything: which variables are set at each point if all goes well, and every
use of one that is not.
-/
namespace ApiTrial

/-- A problem of a scenario, with the place where it was found. -/
structure Finding where
  scenario : String
  location : String
  problem : String
  deriving DecidableEq, Repr

def Finding.display (finding : Finding) : String :=
  s!"{finding.scenario} [{finding.location}]: {finding.problem}"

namespace Check

/-- What is known at a point of the walk: the keys that are set, and what was found so far, each
with its place. -/
structure Known where
  available : List String
  found : List (String × String) := []

def neverSet (key : String) : String :=
  "'\x7b\x7b" ++ key ++ "\x7d\x7d' is never set before this point"

def Known.report (known : Known) (location problem : String) : Known :=
  { known with found := known.found ++ [(location, problem)] }

/-- What is known after keys are used at a place. -/
def Known.require (known : Known) (location : String) (keys : List String) : Known :=
  { known with
    found := known.found ++
      (keys.filter fun key => !known.available.contains key).map fun key =>
        (location, neverSet key) }

def Known.provide (known : Known) (keys : List String) : Known :=
  { known with available := known.available ++ keys }

/-- What is known after the keys of something are used, or after it turned out to be malformed. -/
def Known.use (known : Known) (location : String) : Except Error (List String) → Known
  | .ok keys => known.require location keys
  | .error e => known.report location e.message

def Known.step (known : Known) (phase : String) (step : RequestStep) (index : Nat) : Known :=
  (known.use (step.label phase index) step.request.placeholders).provide step.capture.keys

def Known.steps (known : Known) (phase : String) (steps : List RequestStep) : Known :=
  steps.zipIdx.foldl (fun known step => known.step phase step.1 step.2) known

/-- The texts of an assertion that may hold placeholders. -/
def texts (a : Assertion) : List String :=
  (a.json.bind fun j => j.equals.bind Json.str?).toList ++
    (a.json.bind fun j => j.contains).toList ++
    (a.header.bind fun h => h.equals).toList ++
    (a.binding.bind fun v => v.equals.bind Json.str?).toList

def Known.assertion (known : Known) (a : Assertion) : Known :=
  (texts a).foldl (fun known text => known.use a.name (RequestTemplate.keysOf text)) known

def fixtureLocation (name : String) : String := "fixture " ++ name

def Known.fixture (registry : Registry) (known : Known) (call : Fixture.Call) : Known :=
  match registry.get? call.name with
  | some fixture =>
    (known.require (fixtureLocation call.name) fixture.requires).provide fixture.outputs
  | none => known

def Known.fixtures (registry : Registry) (known : Known) (calls : List Fixture.Call) : Known :=
  match registry.plan calls with
  | .ok plan => plan.foldl (Known.fixture registry) known
  | .error e => known.report "fixtures" e.message

def Known.scenario (registry : Registry) (known : Known) (s : Scenario) : Known :=
  let known := (known.fixtures registry s.fixtures).steps "setup" s.setup
  let known := s.assertions.foldl Known.assertion (known.steps "action" s.actions)
  known.steps "teardown" s.teardown

/-- The findings about scenarios that are run in order, when the given keys are set at the start. -/
def findings (registry : Registry) : List String → List Scenario → List Finding
  | _, [] => []
  | available, s :: rest =>
    let known := Known.scenario registry { available } s
    known.found.map (fun (location, problem) => ⟨s.name, location, problem⟩) ++
      findings registry known.available rest

end Check

end ApiTrial
