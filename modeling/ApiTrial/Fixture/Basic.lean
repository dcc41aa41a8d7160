import ApiTrial.Fixture.Call
import ApiTrial.Network.Client
import ApiTrial.Response.Status

/-!
Fixtures: named builds that send requests to the server under test and produce values. A build works
in a scope of its own, so nothing but its declared outputs is seen by others.
-/
namespace ApiTrial

namespace Fixture

/-- What a build works with: the name of its fixture, a client, and its own scope. -/
structure Context where
  name : String
  client : Client
  scope : ScopeId

namespace Context

def failure (context : Context) (reason : String) : Error := .fixtureFailed context.name reason

def set (context : Context) (key : String) (value : Json) : Trial Unit :=
  Trial.modify (World.mapStore fun store => store.set context.scope key value)

/-- A variable is set as seen from the build. -/
def has (context : Context) (key : String) : Trial Bool :=
  Trial.read fun world => world.store.has context.scope key

/-- The characters of a body that a complaint about a status shows. -/
def shownBody : Nat := 300

/-- The complaint about a response whose status is not of the expected class. -/
def statusComplaint (response : Response) (expect : StatusClass) : String :=
  s!"{response.request.method.word} {response.url} returned {response.status}, " ++
    s!"expected {expect.display} (body: {Text.shortened shownBody response.bodyText})"

/-- Sends the request of a stage and requires a status class. -/
def request (context : Context) (stage : String) (template : RequestTemplate)
    (expect : StatusClass) : Trial Response := do
  let response ← Trial.mapError (fun e => context.failure s!"{stage}: {e.message}")
    (context.client.execute template context.scope)
  if expect.contains response.status then return response
  else throw (context.failure s!"{stage}: {statusComplaint response expect}")

/-- The value that a source has in the response of a stage. -/
def extract (context : Context) (stage : String) (response : Response) (source : String) :
    Except Error Json :=
  match response.capture? source with
  | some value => .ok value
  | none => .error (context.failure s!"{stage}: response has no value at '{source}'")

/-- The outputs under the given keys as they stand in a store. -/
def outputsIn (context : Context) (store : Store) : List String → Except Error Outputs
  | [] => .ok []
  | key :: rest =>
    match store.lookup context.scope key with
    | none => .error (context.failure s!"output '{key}' was never set")
    | some value => (outputsIn context store rest).map (Table.insert key value)

/-- Takes the given keys of the build's scope as outputs. -/
def outputs (context : Context) (keys : List String) : Trial Outputs :=
  ExceptT.mk (Routine.read fun world => context.outputsIn world.store keys)

end Context

end Fixture

/-- A fixture. Every key in `requires` has to be set before a build, and a build promises every key
in `outputs`. -/
structure Fixture where
  name : String
  description : String := ""
  dependencies : Fixture.Params → List Fixture.Call := fun _ => []
  requires : List String := []
  outputs : List String
  build : Fixture.Context → Fixture.Params → Trial Fixture.Outputs

end ApiTrial
