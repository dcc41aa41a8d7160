import ApiTrial.Scenario.Exchange
import ApiTrial.World

/-!
Routines: what is done step by step between one wait and the next. A routine is a tree whose nodes
change the world, send a request and wait, pause, or let something be seen; what follows a node may
depend on what the node saw. `Routine.within` cuts a routine short after a time, and
`Routine.collect` gathers what it lets be seen.
-/
namespace ApiTrial

/-- A routine with a result. An `act` shows what follows the world as it was before the change. -/
inductive Routine (α : Type) where
  | done (result : α)
  | act (change : World → World) (next : World → Routine α)
  | send (request : WireRequest) (patience : Nat) (next : Attempt → Routine α)
  | pause (time : Nat) (next : Routine α)
  | note (event : Event) (next : Routine α)

namespace Routine

variable {α β γ : Type}

/-- A routine followed by another that depends on its result. -/
def bind (routine : Routine α) (f : α → Routine β) : Routine β :=
  match routine with
  | done a => f a
  | act change next => act change fun w => (next w).bind f
  | send request patience next => send request patience fun attempt => (next attempt).bind f
  | pause time next => pause time (next.bind f)
  | note event next => note event (next.bind f)

instance : Monad Routine where
  pure := done
  bind := bind

theorem bind_done (routine : Routine α) : routine.bind done = routine := by
  induction routine with
  | done a => rfl
  | act change next ih => exact congrArg (act change) (funext ih)
  | send request patience next ih => exact congrArg (send request patience) (funext ih)
  | pause time next ih => exact congrArg (pause time) ih
  | note event next ih => exact congrArg (note event) ih

theorem bind_assoc (routine : Routine α) (f : α → Routine β) (g : β → Routine γ) :
    (routine.bind f).bind g = routine.bind fun a => (f a).bind g := by
  induction routine with
  | done a => rfl
  | act change next ih => exact congrArg (act change) (funext ih)
  | send request patience next ih => exact congrArg (send request patience) (funext ih)
  | pause time next ih => exact congrArg (pause time) ih
  | note event next ih => exact congrArg (note event) ih

instance : LawfulMonad Routine := LawfulMonad.mk' Routine bind_done (fun _ _ => rfl) bind_assoc

def read (view : World → α) : Routine α := act id fun w => done (view w)

def modify (change : World → World) : Routine Unit := act change fun _ => done ()

/-- Changes the world and tells of it. -/
def update (change : World → α × World) : Routine α :=
  act (fun w => (change w).2) fun w => done (change w).1

/-- Lets something be seen. -/
def tell (event : Event) : Routine Unit := note event (done ())

/-- A routine cut short after a time: it has no result if it would have to wait any longer. -/
def within (limit : Nat) : Routine α → Routine (Option α)
  | done a => done (some a)
  | act change next => act change fun w => (next w).within limit
  | send request patience next =>
    send request (min patience limit) fun attempt =>
      -- The wait took all the time that was left, whatever came of it.
      if limit ≤ attempt.elapsed then done none
      else (next attempt).within (limit - attempt.elapsed)
  | pause time next =>
    if limit ≤ time then pause limit (done none) else pause time (next.within (limit - time))
  | note event next => note event (next.within limit)

/-- A routine that keeps what it lets be seen, and gives it with its result. -/
def collect : Routine α → Routine (List Event × α)
  | done a => done ([], a)
  | act change next => act change fun w => (next w).collect
  | send request patience next => send request patience fun attempt => (next attempt).collect
  | pause time next => pause time next.collect
  | note event next => next.collect.bind fun seen => done (event :: seen.1, seen.2)

end Routine

/-- A routine that may fail. -/
abbrev Trial (α : Type) := ExceptT Error Routine α

namespace Trial

def read {α : Type} (view : World → α) : Trial α := ExceptT.lift (Routine.read view)

def modify (change : World → World) : Trial Unit := ExceptT.lift (Routine.modify change)

def tell (event : Event) : Trial Unit := ExceptT.lift (Routine.tell event)

def ofExcept {α : Type} (result : Except Error α) : Trial α := ExceptT.mk (pure result)

/-- A routine whose error is put into other words. -/
def mapError {α : Type} (f : Error → Error) (trial : Trial α) : Trial α :=
  ExceptT.mk ((fun result => result.mapError f) <$> trial.run)

end Trial

end ApiTrial
