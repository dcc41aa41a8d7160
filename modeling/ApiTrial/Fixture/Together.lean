import ApiTrial.Fixture.Build
import ApiTrial.Routine.Run

/-!
Builds that are started together. While a call is being built for one caller, another caller whose
scope has the same path and who needs a call of the same identity waits for that build and takes its
outcome. The builds that wait for the network are answered in the order in which they were started.
-/
namespace ApiTrial.Fixture

/-- What a caller is at: one call being built, another caller's build being waited for, or the
end. -/
inductive Standing where
  | building (key : String) (routine : Routine (Except Error Outputs))
  | waiting (key : String)
  | ended (outcome : Except Error Outputs)

/-- A caller among several: its scope, the call that it asked for, the plan still ahead, and what is
built for it. -/
structure Caller where
  scope : ScopeId
  call : Call
  ahead : List Call
  built : Built := []
  standing : Standing

namespace Caller

/-- The key of the build that a caller has under way. -/
def underway? (caller : Caller) : Option String :=
  match caller.standing with
  | .building key _ => some key
  | _ => none

/-- A caller that has come to its end. -/
def finish (caller : Caller) (outcome : Except Error Outputs) : Caller :=
  { caller with ahead := [], standing := .ended outcome }

/-- The key under which builds are shared. -/
def shareKey (path : String) (call : Call) : String := path ++ "::" ++ call.identity

/-- Goes on with a plan until a build waits, or another one has to be waited for, or the plan is
done and written down. `others` are the keys of the builds under way. -/
def advance (registry : Registry) (client : Client) (others : List String) (caller : Caller) :
    List Call → World → Caller × World
  | [], world =>
    let outcome := (requested [caller.call] caller.built).bind (single caller.call)
    (caller.finish outcome, commit caller.scope caller.built world)
  | call :: rest, world =>
    let key := shareKey (world.store.path caller.scope) call
    let caller := { caller with ahead := call :: rest }
    if others.contains key then ({ caller with standing := .waiting key }, world)
    else
      match registry.get call.name with
      | .error e => (caller.finish (.error e), world)
      | .ok fixture =>
        match fixture.inherited call caller.built with
        | .error e => (caller.finish (.error e), world)
        | .ok inherited =>
          match (buildOne client caller.scope fixture call inherited).run.untilWait world with
          | (.done (.error e), world) => (caller.finish (.error e), world)
          | (.done (.ok outputs), world) =>
            advance registry client others
              { caller with built := caller.built ++ [(call, outputs)] } rest world
          -- The build waits for the network; from now on others may take its outcome.
          | (routine, world) => ({ caller with standing := .building key routine }, world)

/-- Takes the outcome of the build that a caller was at, and goes on. -/
def receive (registry : Registry) (client : Client) (others : List String) (caller : Caller)
    (outcome : Except Error Outputs) (world : World) : Caller × World :=
  match outcome, caller.ahead with
  | .ok outputs, call :: rest =>
    advance registry client others { caller with built := caller.built ++ [(call, outputs)] } rest
      world
  | .ok _, [] => (caller, world)
  | .error e, _ => (caller.finish (.error e), world)

/-- A caller at its start. -/
def start (registry : Registry) (client : Client) (others : List String) (scope : ScopeId)
    (call : Call) (world : World) : Caller × World :=
  match registry.plan [call] with
  | .error e => ({ scope, call, ahead := [], standing := .ended (.error e) }, world)
  | .ok plan =>
    advance registry client others { scope, call, ahead := plan, standing := .waiting "" } plan
      world

/-- The caller is at the build with a key, its own or another's. -/
def isAt (key : String) (caller : Caller) : Bool :=
  match caller.standing with
  | .building k _ => k == key
  | .waiting k => k == key
  | .ended _ => false

end Caller

/-- Starts one caller after the other. -/
def startAll (registry : Registry) (client : Client) :
    List (ScopeId × Call) → List Caller → World → List Caller × World
  | [], started, world => (started, world)
  | (scope, call) :: rest, started, world =>
    let others := started.filterMap Caller.underway?
    let (caller, world) := Caller.start registry client others scope call world
    startAll registry client rest (started ++ [caller]) world

/-- Hands the outcome of a build to every caller that is at it. -/
def handOut (registry : Registry) (client : Client) (key : String)
    (outcome : Except Error Outputs) :
    List Caller → List Caller → World → List Caller × World
  | served, [], world => (served, world)
  | served, caller :: rest, world =>
    if caller.isAt key then
      -- The callers still to be served are at a build that is over, and do not count.
      let others := (served ++ rest.filter fun c => !c.isAt key).filterMap Caller.underway?
      let (caller, world) := caller.receive registry client others outcome world
      handOut registry client key outcome (served ++ [caller]) rest world
    else handOut registry client key outcome (served ++ [caller]) rest world

/-- The first build under way. -/
def firstUnderway? (callers : List Caller) :
    Option (String × Routine (Except Error Outputs)) :=
  callers.findSome? fun caller =>
    match caller.standing with
    | .building key routine => some (key, routine)
    | _ => none

/-- Ends at most so many builds under way. -/
def finishAll (registry : Registry) (client : Client) (network : Network) :
    Nat → List Caller → World → List Caller × World
  | 0, callers, world => (callers, world)
  | builds + 1, callers, world =>
    match firstUnderway? callers with
    | none => (callers, world)
    | some (key, routine) =>
      let (outcome, world) := routine.run network world
      let (callers, world) := handOut registry client key outcome [] callers world
      finishAll registry client network builds callers world

/-- The outcome of a caller. Every caller has ended when no build is under way. -/
def Caller.outcome (caller : Caller) : Except Error Outputs :=
  match caller.standing with
  | .ended outcome => outcome
  | _ => .error (.internal s!"no outputs recorded for '{caller.call.name}'")

/-- Builds calls for several callers at once. -/
def buildTogether (registry : Registry) (client : Client) (network : Network)
    (calls : List (ScopeId × Call)) (world : World) : List (Except Error Outputs) × World :=
  let (callers, world) := startAll registry client calls [] world
  -- No caller can have more builds ahead of it than there are calls left in its plan.
  let builds := callers.foldl (fun count caller => count + caller.ahead.length) 0
  let (callers, world) := finishAll registry client network builds callers world
  (callers.map Caller.outcome, world)

end ApiTrial.Fixture
