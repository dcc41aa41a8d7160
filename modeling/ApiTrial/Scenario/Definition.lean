import ApiTrial.Fixture.Call
import ApiTrial.Request.Basic
import ApiTrial.Response.Status

/-!
Scenarios: what is set up, the requests under test, what is asserted of their responses, and what
is torn down.
-/
namespace ApiTrial

/-- A request of a scenario. -/
structure RequestStep where
  id : Option String := none
  request : RequestTemplate
  expect : Option StatusExpectation := none
  capture : Table String := []

/-- The name of a step in reports: its id, or its phase and position. -/
def RequestStep.label (step : RequestStep) (phase : String) (index : Nat) : String :=
  step.id.getD s!"{phase}#{index + 1}"

/-- What is asserted of the value at a pointer into a body. -/
structure JsonExpectation where
  pointer : String
  equals : Option Json := none
  exists? : Option Bool := none
  contains : Option String := none

/-- What is asserted of a header. -/
structure HeaderExpectation where
  name : String
  equals : Option String := none
  present : Option Bool := none

/-- What is asserted of a variable. -/
structure VariableExpectation where
  key : String
  equals : Option Json := none
  present : Option Bool := none

/-- A named assertion: everything that it sets has to hold. -/
structure Assertion where
  name : String
  response : Option String := none
  status : Option Nat := none
  statusClass : Option StatusClass := none
  bodyEmpty : Option Bool := none
  json : Option JsonExpectation := none
  header : Option HeaderExpectation := none
  binding : Option VariableExpectation := none

namespace Assertion

def ofStatus (name : String) (status : Nat) : Assertion := { name, status := some status }

def ofBodyEmpty (name : String) (empty : Bool) : Assertion := { name, bodyEmpty := some empty }

def ofJsonEquals (name pointer : String) (value : Json) : Assertion :=
  { name, json := some { pointer, equals := some value } }

def ofHeaderPresent (name header : String) : Assertion :=
  { name, header := some { name := header, present := some true } }

/-- The assertion about the response of another action. -/
def on (assertion : Assertion) (action : String) : Assertion :=
  { assertion with response := some action }

def readsResponse (a : Assertion) : Bool :=
  a.status.isSome || a.statusClass.isSome || a.bodyEmpty.isSome || a.json.isSome || a.header.isSome

def hasChecks (a : Assertion) : Bool := a.readsResponse || a.binding.isSome

end Assertion

structure Scenario where
  name : String
  description : Option String := none
  tags : List String := []
  group : Option String := none
  timeoutSecs : Option Nat := none
  retries : Option Nat := none
  fixtures : List Fixture.Call := []
  setup : List RequestStep := []
  actions : List RequestStep := []
  assertions : List Assertion := []
  teardown : List RequestStep := []

namespace Scenario

/-- What is wrong with a scenario. -/
inductive Fault where
  | noActions (scenario : String)
  | duplicateId (id : String)
  | checksNothing (assertion : String)
  | unknownAction (assertion action : String)
  deriving DecidableEq, Repr

def Fault.message : Fault → String
  | noActions scenario => s!"scenario '{scenario}' has no actions"
  | duplicateId id => s!"duplicate action id '{id}'"
  | checksNothing assertion => s!"assertion '{assertion}' checks nothing"
  | unknownAction assertion action => s!"assertion '{assertion}' reads unknown action '{action}'"

/-- The first id that occurs among the ids before it. -/
def repeated? (before : List String) : List String → Option String
  | [] => none
  | id :: rest => if before.contains id then some id else repeated? (before ++ [id]) rest

def actionIds (scenario : Scenario) : List String := scenario.actions.filterMap RequestStep.id

/-- What is wrong with an assertion, where the actions have the given ids. -/
def assertionFault? (ids : List String) (a : Assertion) : Option Fault :=
  if !a.hasChecks then some (.checksNothing a.name)
  else match a.response with
  | some target => if ids.contains target then none else some (.unknownAction a.name target)
  | none => none

/-- The first thing that is wrong with a scenario. -/
def fault? (scenario : Scenario) : Option Fault :=
  if scenario.actions.isEmpty then some (.noActions scenario.name)
  else match repeated? [] scenario.actionIds with
  | some id => some (.duplicateId id)
  | none => scenario.assertions.findSome? (assertionFault? scenario.actionIds)

end Scenario

end ApiTrial
