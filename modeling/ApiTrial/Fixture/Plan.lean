import ApiTrial.Fixture.Basic

/-!
The order in which calls are built. A plan holds every call that is asked for and every call that
one of these depends on, each identity once and behind its dependencies. Cycles, unknown fixtures
and chains that are too long are found before anything is built.
-/
namespace ApiTrial

/-- The fixtures that can be called, one for each name. -/
abbrev Registry := List Fixture

namespace Registry

/-- A registry with a fixture, which replaces the one of its name. -/
def register (registry : Registry) (fixture : Fixture) : Registry :=
  fixture :: registry.filter fun f => f.name != fixture.name

def registerAll (registry : Registry) (fixtures : List Fixture) : Registry :=
  fixtures.foldl register registry

def get? (registry : Registry) (name : String) : Option Fixture :=
  registry.find? fun f => f.name == name

/-- The fixture of a name, which must be known. -/
def get (registry : Registry) (name : String) : Except Error Fixture :=
  match registry.get? name with
  | some fixture => .ok fixture
  | none => .error (.unknownFixture name)

def sorted (registry : Registry) : List Fixture :=
  registry.mergeSort fun f g => decide (f.name ≤ g.name)

theorem name_of_get? {registry : Registry} {name : String} {fixture : Fixture}
    (h : registry.get? name = some fixture) : fixture.name = name := by
  simpa using List.find?_some h

theorem get?_register_self (registry : Registry) (fixture : Fixture) :
    (registry.register fixture).get? fixture.name = some fixture := by
  simp [register, get?]

/-- The most calls that may lie between a call that is asked for and one that it needs. -/
def depthLimit : Nat := 32

/-- The order with a call and all that it needs behind the order so far. The chain leads from a call
that is asked for to this one, and `left` is how much longer it may grow. -/
def visit (registry : Registry) : (left : Nat) → (chain order : List Fixture.Call) →
    Fixture.Call → Except Error (List Fixture.Call)
  | left, chain, order, call =>
    if order.any fun c => c.identity == call.identity then .ok order
    else if chain.any fun c => c.identity == call.identity then
      -- Only the part of the chain that leads back to this call makes up the cycle.
      let cycle := chain.dropWhile fun c => c.identity != call.identity
      .error (.dependencyCycle ((cycle ++ [call]).map Fixture.Call.name))
    else match left with
    | 0 => .error (.dependencyCycle ((chain ++ [call]).map Fixture.Call.name))
    | left + 1 => do
      let fixture ← registry.get call.name
      let order ← (fixture.dependencies call.params).foldlM
        (visit registry left (chain ++ [call])) order
      -- What it needs is in front of it by now, and its own identity is still missing.
      return order ++ [call]

/-- The order in which calls and all that they need are built. -/
def plan (registry : Registry) (calls : List Fixture.Call) : Except Error (List Fixture.Call) :=
  calls.foldlM (registry.visit depthLimit []) []

end Registry

end ApiTrial
