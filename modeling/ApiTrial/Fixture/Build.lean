import ApiTrial.Fixture.Plan

/-!
Building a plan. Each call is built in a scope of its own below the caller's, which holds the
outputs of its dependencies and its parameters. Only when the whole plan is built are the outputs
written to the caller's scope; a failure before that leaves the caller's variables as they were.
-/
namespace ApiTrial

/-- The failure of a build: it names the fixture that failed first. -/
def Error.asFixtureFailure (name : String) : Error → Error
  | .fixtureFailed name reason => .fixtureFailed name reason
  | e => .fixtureFailed name e.message

namespace Fixture

/-- What the calls of a plan have produced, in the order of the plan. -/
abbrev Built := List (Call × Outputs)

def Built.outputs? (built : Built) (call : Call) : Option Outputs :=
  (built.find? fun entry => entry.1.identity == call.identity).map (·.2)

/-- The part of a build's scope in its path. -/
def scopeName (name : String) : String := "fixture:" ++ name

/-- Opens the scope of a build: what its dependencies produced, under what the call gives. -/
def openScope (fixture : Fixture) (call : Call) (inherited : List Outputs) (caller : ScopeId)
    (world : World) : ScopeId × World :=
  let (store, scope) := world.store.isolate caller (scopeName fixture.name)
  let store := inherited.foldl (fun store outputs => store.merge scope outputs) store
  -- Parameters are written last, so they win over inherited outputs of the same key.
  (scope, { world with store := store.merge scope call.params })

/-- A required key that a scope does not see. -/
def missingKey? (fixture : Fixture) (scope : ScopeId) (world : World) : Option String :=
  fixture.requires.find? fun key => !world.store.has scope key

/-- The declared outputs out of what a build has produced. -/
def declared (fixture : Fixture) (produced : Outputs) : Except Error Outputs :=
  match fixture.outputs.find? fun key => !produced.contains key with
  | some key =>
    .error (.fixtureFailed fixture.name s!"declared output '{key}' was not produced")
  | none => .ok (produced.retain fixture.outputs)

/-- Builds one call in a scope of its own. -/
def buildOne (client : Client) (caller : ScopeId) (fixture : Fixture) (call : Call)
    (inherited : List Outputs) : Trial Outputs := do
  let scope ← ExceptT.lift (Routine.update (openScope fixture call inherited caller))
  match ← Trial.read (fixture.missingKey? scope) with
  | some key =>
    throw (.fixtureFailed fixture.name s!"required environment key '{key}' is not set")
  | none =>
    let produced ← Trial.mapError (Error.asFixtureFailure fixture.name)
      (fixture.build ⟨fixture.name, client, scope⟩ call.params)
    Trial.ofExcept (fixture.declared produced)

/-- The outputs of the dependencies of a call, all built before. -/
def inherited (fixture : Fixture) (call : Call) (built : Built) : Except Error (List Outputs) :=
  (fixture.dependencies call.params).mapM fun dependency =>
    match built.outputs? dependency with
    | some outputs => .ok outputs
    | none =>
      .error (.internal s!"dependency '{dependency.name}' of '{call.name}' missing from plan")

/-- Builds the rest of a plan behind what is built. -/
def buildRest (registry : Registry) (client : Client) (caller : ScopeId) (built : Built) :
    List Call → Trial Built
  | [] => pure built
  | call :: rest => do
    let fixture ← Trial.ofExcept (registry.get call.name)
    let inherited ← Trial.ofExcept (fixture.inherited call built)
    let outputs ← buildOne client caller fixture call inherited
    buildRest registry client caller (built ++ [(call, outputs)]) rest

/-- The owners of keys after a fixture has written its outputs in a scope of a path. -/
def ownersAfter (path : String) (owners : Table String) (entry : Call × Outputs) : Table String :=
  owners.insertAll (entry.2.keys.map fun key => (World.ownerKey path key, entry.1.name))

/-- The world after all that is built is written to the caller's scope. -/
def commit (caller : ScopeId) (built : Built) (world : World) : World :=
  { world with
    owners := built.foldl (ownersAfter (world.store.path caller)) world.owners
    store := world.store.merge caller (built.flatMap (·.2)) }

/-- The outputs of the calls that were asked for. -/
def requested (calls : List Call) (built : Built) : Except Error (List Outputs) :=
  calls.mapM fun call =>
    match built.outputs? call with
    | some outputs => .ok outputs
    | none => .error (.internal s!"fixture '{call.name}' missing from plan")

/-- Builds calls and all that they need, writes the outputs to the caller's scope, and gives those
of the calls. -/
def buildAll (registry : Registry) (client : Client) (caller : ScopeId) (calls : List Call) :
    Trial (List Outputs) := do
  let plan ← Trial.ofExcept (registry.plan calls)
  let built ← buildRest registry client caller [] plan
  -- The only change of the caller's variables, once nothing can fail any more.
  Trial.modify (commit caller built)
  Trial.ofExcept (requested calls built)

/-- The last of the outputs of a single call. -/
def single (call : Call) (outputs : List Outputs) : Except Error Outputs :=
  match outputs.getLast? with
  | some outputs => .ok outputs
  | none => .error (.internal s!"no outputs recorded for '{call.name}'")

/-- Builds one call and all that it needs. -/
def buildCall (registry : Registry) (client : Client) (caller : ScopeId) (call : Call) :
    Trial Outputs := do
  Trial.ofExcept (single call (← buildAll registry client caller [call]))

end Fixture

end ApiTrial
