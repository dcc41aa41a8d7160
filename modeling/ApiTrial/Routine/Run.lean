import ApiTrial.Routine.Basic

/-!
Running routines over a network: one routine alone, or several side by side in lanes. Which lane
makes the next step is up to a schedule, and when the schedule ends the lanes are finished one by
one, so every interleaving is the run of some schedule.
-/
namespace ApiTrial.Routine

variable {α β : Type}

/-- The first step of a routine: what is left of it, and the world behind the step. -/
def step (network : Network) (routine : Routine α) (world : World) : Routine α × World :=
  match routine with
  | done a => (done a, world)
  | act change next => (next world, change world)
  | send request patience next =>
    (next ((network world.sent request).seenWithin patience), world.sending request)
  | pause _ next => (next, world)
  | note _ next => (next, world)

/-- The result of a routine that is run alone, and the world behind it. -/
def run (network : Network) (routine : Routine α) (world : World) : α × World :=
  match routine with
  | done a => (a, world)
  | act change next => run network (next world) (change world)
  | send request patience next =>
    run network (next ((network world.sent request).seenWithin patience)) (world.sending request)
  | pause _ next => run network next world
  | note _ next => run network next world

/-- What is left of a routine when it has to wait, and the world at that point. -/
def untilWait (routine : Routine α) (world : World) : Routine α × World :=
  match routine with
  | act change next => untilWait (next world) (change world)
  | note _ next => untilWait next world
  | routine => (routine, world)

/-- The results of routines run one after the other. -/
def runAll (network : Network) : List (Routine α) → World → List α × World
  | [], world => ([], world)
  | routine :: rest, world =>
    let (a, world) := run network routine world
    let (as, world) := runAll network rest world
    (a :: as, world)

/-- The results of routines run side by side. Each entry of the schedule names the lane that makes
the next step. -/
def runLanes (network : Network) : List Nat → List (Routine α) → World → List α × World
  | [], lanes, world => runAll network lanes world
  | lane :: schedule, lanes, world =>
    match lanes[lane]? with
    | some routine =>
      let (routine, world) := step network routine world
      runLanes network schedule (lanes.set lane routine) world
    | none => runLanes network schedule lanes world

theorem run_bind (network : Network) (routine : Routine α) (f : α → Routine β) (world : World) :
    run network (routine.bind f) world =
      run network (f (run network routine world).1) (run network routine world).2 := by
  induction routine generalizing world with
  | done a => rfl
  | act change next ih => exact ih _ _
  | send request patience next ih => exact ih _ _
  | pause time next ih => exact ih _
  | note event next ih => exact ih _

theorem run_pure (network : Network) (a : α) (world : World) :
    run network (pure a : Routine α) world = (a, world) := rfl

theorem run_monad_bind (network : Network) (routine : Routine α) (f : α → Routine β)
    (world : World) :
    run network (routine >>= f) world =
      run network (f (run network routine world).1) (run network routine world).2 :=
  run_bind network routine f world

/-- A routine comes to the same end when its first step is made ahead. -/
theorem run_step (network : Network) (routine : Routine α) (world : World) :
    run network (step network routine world).1 (step network routine world).2 =
      run network routine world := by
  cases routine <;> rfl

/-- A routine comes to the same end when it is first run up to where it waits. -/
theorem run_untilWait (network : Network) (routine : Routine α) (world : World) :
    run network (untilWait routine world).1 (untilWait routine world).2 =
      run network routine world := by
  induction routine generalizing world with
  | done a => rfl
  | act change next ih => exact ih _ _
  | send request patience next ih => rfl
  | pause time next ih => rfl
  | note event next ih => exact ih _

/-- A lane that is alone comes to the end of its routine, whatever the schedule. -/
theorem runLanes_singleton (network : Network) (schedule : List Nat) (routine : Routine α)
    (world : World) :
    runLanes network schedule [routine] world =
      ([(run network routine world).1], (run network routine world).2) := by
  induction schedule generalizing routine world with
  | nil => rfl
  | cons lane rest ih =>
    cases lane with
    | zero =>
      show runLanes network rest [(step network routine world).1] (step network routine world).2 = _
      rw [ih, run_step]
    | succ n => exact ih routine world

/-- There are as many results as lanes. -/
theorem length_runAll (network : Network) (lanes : List (Routine α)) (world : World) :
    (runAll network lanes world).1.length = lanes.length := by
  induction lanes generalizing world with
  | nil => rfl
  | cons routine rest ih => simp [runAll, ih]

theorem length_runLanes (network : Network) (schedule : List Nat) (lanes : List (Routine α))
    (world : World) : (runLanes network schedule lanes world).1.length = lanes.length := by
  induction schedule generalizing lanes world with
  | nil => exact length_runAll network lanes world
  | cons lane rest ih =>
    simp only [runLanes]
    split
    · simp [ih]
    · exact ih lanes world

end ApiTrial.Routine
