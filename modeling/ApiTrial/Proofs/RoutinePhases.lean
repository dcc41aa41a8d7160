import ApiTrial.Proofs.FixtureParts
import ApiTrial.Proofs.RoutineOutcome
import ApiTrial.Scenario.Run

/-! Which phases a routine enters. Requests, builds and captures enter none: they are `Quiet`. What
is known of the phases at every wait of a routine and at its end is therefore known of a run that is
cut short, since a time limit can only strike at a wait. -/
namespace ApiTrial
namespace Routine
variable {α β : Type}

/-- A routine that enters no phase, whatever it is answered. -/
inductive Quiet : Routine α → Prop where
  | done (a : α) : Quiet (done a)
  | act (change : World → World) (next : World → Routine α) (hn : ∀ w, Quiet (next w)) :
      Quiet (act change next)
  | send (request : WireRequest) (patience : Nat) (next : Attempt → Routine α)
      (hn : ∀ seen, Quiet (next seen)) : Quiet (send request patience next)
  | pause (time : Nat) (next : Routine α) (hn : Quiet next) : Quiet (pause time next)
  | note (event : Event) (next : Routine α) (he : event.phase? = none) (hn : Quiet next) :
      Quiet (note event next)

theorem quiet_bind (routine : Routine α) (f : α → Routine β) (h : routine.Quiet)
    (hf : ∀ a, (f a).Quiet) : (routine.bind f).Quiet := by
  induction h with
  | done a => exact hf a
  | act change next hn ih => exact .act change _ ih
  | send request patience next hn ih => exact .send request patience _ ih
  | pause time next hn ih => exact .pause time _ ih
  | note event next he hn ih => exact .note event _ he ih

def Passes (waits : List Phase → Prop) (ends : List Phase → α → Prop) :
    Routine α → List Phase → Prop
  | done a, entered => ends entered a
  | act _ next, entered => ∀ w, Passes waits ends (next w) entered
  | send _ _ next, entered => waits entered ∧ ∀ seen, Passes waits ends (next seen) entered
  | pause _ next, entered => waits entered ∧ Passes waits ends next entered
  | note event next, entered => Passes waits ends next (entered ++ event.phase?.toList)

def Stopped (waits : List Phase → Prop) (ends : List Phase → α → Prop) (entered : List Phase) :
    Option α → Prop
  | some a => ends entered a
  | none => waits entered

variable (waits : List Phase → Prop) (ends : List Phase → β → Prop) (entered : List Phase)

/-- A quiet part in front of a routine changes nothing but where it may wait. -/
theorem passes_bind_of_quiet (routine : Routine α) (f : α → Routine β) (h : routine.Quiet)
    (hw : waits entered) (hf : ∀ a, (f a).Passes waits ends entered) :
    (routine.bind f).Passes waits ends entered := by
  induction h with
  | done a => exact hf a
  | act change next hn ih => exact ih
  | send request patience next hn ih => exact ⟨hw, ih⟩
  | pause time next hn ih => exact ⟨hw, ih⟩
  | note event next he hn ih =>
    have hsame : entered ++ event.phase?.toList = entered := by
      rw [he, Option.toList_none, List.append_nil]
    show Passes waits ends (next.bind f) (entered ++ event.phase?.toList)
    rw [hsame]
    exact ih

/-- A time limit stops a routine at its end or at one of its waits. -/
theorem stopped_of_passes (network : Network) (routine : Routine β) (limit : Nat) (world : World)
    (h : routine.Passes waits ends entered) :
    Stopped waits ends
      (entered ++ (run network (routine.within limit).collect world).1.1.filterMap Event.phase?)
      (run network (routine.within limit).collect world).1.2 := by
  induction routine generalizing limit world entered with
  | done a =>
    show ends (entered ++ []) a
    rw [List.append_nil]
    exact h
  | act change next ih => exact ih world entered limit (change world) (h world)
  | send request patience next ih =>
    rw [within, collect, run]
    split
    · show waits (entered ++ [])
      rw [List.append_nil]
      exact h.1
    · exact ih _ entered _ _ (h.2 _)
  | pause time next ih =>
    rw [within]
    split
    · show waits (entered ++ [])
      rw [List.append_nil]
      exact h.1
    · exact ih entered _ world h.2
  | note event next ih =>
    have hrest := ih (entered ++ event.phase?.toList) limit world h
    rw [within, collect, run_bind]
    show Stopped waits ends (entered ++ (event :: _).filterMap Event.phase?) _
    cases hp : event.phase? with
    | none =>
      rw [hp, Option.toList_none, List.append_nil] at hrest
      rw [List.filterMap_cons_none hp]
      exact hrest
    | some phase =>
      rw [hp, Option.toList_some, List.append_assoc] at hrest
      rw [List.filterMap_cons_some hp]
      exact hrest

end Routine

namespace Trial
variable {α β : Type}

/-- A trial that enters no phase. -/
def Quiet (trial : Trial α) : Prop := trial.run.Quiet

theorem quiet_pure (a : α) : Quiet (pure a : Trial α) := .done _

theorem quiet_throw (e : Error) : Quiet (throw e : Trial α) := .done _

theorem quiet_ofExcept (result : Except Error α) : Quiet (Trial.ofExcept result) := .done result

theorem quiet_read (view : World → α) : Quiet (Trial.read view) := .act _ _ fun _ => .done _

theorem quiet_readExcept (view : World → Except Error α) :
    Quiet (ExceptT.mk (Routine.read view)) :=
  .act _ _ fun _ => .done _

theorem quiet_modify (change : World → World) : Quiet (Trial.modify change) :=
  .act _ _ fun _ => .done _

theorem quiet_update (change : World → α × World) :
    Quiet (ExceptT.lift (Routine.update change)) :=
  .act _ _ fun _ => .done _

theorem quiet_exchanged (exchange : Exchange) : Quiet (Trial.tell (.exchanged exchange)) :=
  .note _ _ rfl (.done _)

theorem quiet_bind (trial : Trial α) (f : α → Trial β) (h : trial.Quiet)
    (hf : ∀ a, (f a).Quiet) : Quiet (trial >>= f) := by
  apply Routine.quiet_bind trial.run _ h
  intro result
  cases result with
  | ok a => exact hf a
  | error e => exact .done _

theorem quiet_mapError (f : Error → Error) (trial : Trial α) (h : trial.Quiet) :
    Quiet (Trial.mapError f trial) :=
  Routine.quiet_bind trial.run _ h fun _ => .done _

variable (waits : List Phase → Prop) (ends : List Phase → Except Error β → Prop)
  (entered : List Phase)

theorem passes_bind_of_quiet (trial : Trial α) (f : α → Trial β) (h : trial.Quiet)
    (hw : waits entered) (he : ∀ e, ends entered (.error e))
    (hf : ∀ a, (f a).run.Passes waits ends entered) :
    (trial >>= f).run.Passes waits ends entered := by
  apply Routine.passes_bind_of_quiet waits ends entered trial.run _ h hw
  intro result
  cases result with
  | ok a => exact hf a
  | error e => exact he e

theorem passes_enter (phase : Phase) (f : Unit → Trial β)
    (h : (f ()).run.Passes waits ends (entered ++ [phase])) :
    (Trial.tell (.entered phase) >>= f).run.Passes waits ends entered :=
  h

end Trial

namespace Client

theorem quiet_attempt (client : Client) (request : ResolvedRequest) :
    (client.attempt request).Quiet := by
  rw [Trial.Quiet, attempt, ExceptT.run_mk]
  cases request.wire (client.urlOf request.path) with
  | error e => exact .done _
  | ok wire =>
    apply Routine.Quiet.send
    rintro ⟨elapsed, answer?⟩
    cases answer? <;> exact .done _

/-- Sending a request lets nothing be seen. -/
theorem quiet_attempts (client : Client) (request : ResolvedRequest) (backoff retries : Nat) :
    (client.attempts request backoff retries).Quiet := by
  induction retries with
  | zero =>
    rw [attempts]
    exact quiet_attempt client request
  | succ retries ih =>
    rw [Trial.Quiet, attempts, ExceptT.run_mk]
    apply Routine.quiet_bind _ _ (quiet_attempt client request)
    intro outcome
    cases outcome with
    | ok response => exact .done _
    | error e =>
      dsimp only
      split
      · exact .pause _ _ ih
      · exact .done _

theorem quiet_executeWith (client : Client) (retry : RetryPolicy) (template : RequestTemplate)
    (scope : ScopeId) : (client.executeWith retry template scope).Quiet := by
  apply Trial.quiet_bind _ _ (Trial.quiet_readExcept _)
  exact fun request => quiet_attempts client request _ _

end Client

namespace Fixture

/-- All that a build can do with its context is quiet. -/
theorem Context.closed_quiet (context : Context) : context.Closed fun _ trial => trial.Quiet where
  pure := fun _ => Trial.quiet_pure
  bind := fun _ _ => Trial.quiet_bind
  set := fun _ _ => Trial.quiet_modify _
  has := fun _ => Trial.quiet_read _
  request := by
    intro stage template expect
    apply Trial.quiet_bind
    · exact Trial.quiet_mapError _ _ (context.client.quiet_executeWith _ template context.scope)
    · intro response
      split
      · exact Trial.quiet_pure response
      · exact Trial.quiet_throw _
  extract := fun _ _ _ => Trial.quiet_ofExcept _
  outputs := fun _ => Trial.quiet_readExcept _

/-- A fixture whose builds enter no phase: a build is not handed the record of the run. -/
def Quiet (fixture : Fixture) : Prop := ∀ context params, (fixture.build context params).Quiet

theorem quiet_buildOne (client : Client) (caller : ScopeId) (fixture : Fixture) (call : Call)
    (inherited : List Outputs) (h : fixture.Quiet) :
    (buildOne client caller fixture call inherited).Quiet := by
  apply Trial.quiet_bind _ _ (Trial.quiet_update _)
  intro scope
  apply Trial.quiet_bind _ _ (Trial.quiet_read _)
  rintro (_ | key)
  · apply Trial.quiet_bind _ _ (Trial.quiet_mapError _ _ (h _ _))
    exact fun _ => Trial.quiet_ofExcept _
  · exact Trial.quiet_throw _

variable (registry : Registry) (client : Client) (caller : ScopeId)
  (h : ∀ fixture ∈ registry, fixture.Quiet)
include h

theorem quiet_buildRest (plan : List Call) (built : Built) :
    (buildRest registry client caller built plan).Quiet := by
  induction plan generalizing built with
  | nil => exact Trial.quiet_pure _
  | cons call rest ih =>
    rw [buildRest, Registry.get]
    cases hf : registry.get? call.name with
    | none => exact Trial.quiet_throw _
    | some fixture =>
      have hq : fixture.Quiet := h fixture (List.mem_of_find?_eq_some hf)
      show Trial.Quiet (Trial.ofExcept (fixture.inherited call built) >>= _)
      apply Trial.quiet_bind _ _ (Trial.quiet_ofExcept _)
      intro inherited
      apply Trial.quiet_bind _ _ (quiet_buildOne client caller fixture call inherited hq)
      exact fun outputs => ih _

theorem quiet_buildAll (calls : List Call) : (buildAll registry client caller calls).Quiet := by
  apply Trial.quiet_bind _ _ (Trial.quiet_ofExcept _)
  intro plan
  apply Trial.quiet_bind _ _ (quiet_buildRest registry client caller h plan [])
  intro built
  apply Trial.quiet_bind _ _ (Trial.quiet_modify _)
  exact fun _ => Trial.quiet_ofExcept _

end Fixture

theorem Registry.quiet_of_isStandard (registry : Registry) (h : registry.IsStandard) :
    ∀ fixture ∈ registry, fixture.Quiet :=
  fun fixture hf context params =>
    registry.closed_of_isStandard h fixture hf context params _ context.closed_quiet

end ApiTrial
