import ApiTrial.Proofs.RequestResolved
import ApiTrial.Proofs.RoutineCourse

/-! The course of a request. It is sent, and sent again after each pause while no answer comes and
retries are left; a request that cannot be sent has no course. Nothing is noted on the way. -/
namespace ApiTrial

namespace Mark

inductive Tries (backoff : Nat) (request : WireRequest) : Nat → List Mark → Prop
  | answered (retries : Nat) (seen : Attempt) (h : seen.answer?.isSome = true) :
      Tries backoff request retries [sent request seen]
  | givenUp (seen : Attempt) (h : seen.answer? = none) : Tries backoff request 0 [sent request seen]
  | again (retries : Nat) (seen : Attempt) (rest : List Mark) (h : seen.answer? = none)
      (hr : Tries backoff request retries rest) :
      Tries backoff request (retries + 1) (sent request seen :: paused backoff :: rest)

theorem events_of_tries (backoff : Nat) (request : WireRequest) (retries : Nat) (course : List Mark)
    (h : Tries backoff request retries course) : events course = [] := by
  induction h with
  | answered retries seen h => rfl
  | givenUp seen h => rfl
  | again retries seen rest h hr ih => exact ih

/-- A request is sent once and at most as often again as it may be retried. -/
theorem requests_of_tries (backoff : Nat) (request : WireRequest) (retries : Nat)
    (course : List Mark) (h : Tries backoff request retries course) :
    ∃ again ≤ retries, requests course = List.replicate (again + 1) request := by
  induction h with
  | answered retries seen h => exact ⟨0, Nat.zero_le _, rfl⟩
  | givenUp seen h => exact ⟨0, Nat.le_refl _, rfl⟩
  | again retries seen rest h hr ih =>
    obtain ⟨again, hle, he⟩ := ih
    refine ⟨again + 1, Nat.succ_le_succ hle, ?_⟩
    rw [List.replicate_succ, ← he]
    rfl

end Mark

namespace Client
variable (client : Client) (network : Network)

/-- A request that can be sent is sent once, and its answer or the want of one is what is seen. -/
theorem goes_attempt (request : ResolvedRequest) (wire : WireRequest) (world : World)
    (h : request.wire (client.urlOf request.path) = .ok wire) :
    (client.attempt request).Goes network world
      (match ((network world.sent wire).seenWithin client.patience).answer? with
        | some answer => .ok (client.response request answer)
        | none => .error (unanswered wire))
      (world.sending wire)
      [.sent wire ((network world.sent wire).seenWithin client.patience)] := by
  rw [attempt, h]
  rcases hs : (network world.sent wire).seenWithin client.patience with ⟨elapsed, answer?⟩
  constructor
  · show Routine.run network (.send _ _ _) world = _
    rw [Routine.run, hs]
    cases answer? <;> rfl
  · show Routine.course network (.send _ _ _) world = _
    rw [Routine.course, hs]
    cases answer? <;> rfl

theorem goes_attempt_of_refused (request : ResolvedRequest) (e : Error) (world : World)
    (h : request.wire (client.urlOf request.path) = .error e) :
    (client.attempt request).Goes network world (.error e) world [] := by
  rw [attempt, h]
  exact ⟨rfl, rfl⟩

/-- A request that can be sent is tried until there is an answer or no retry is left. -/
theorem tries_attempts (request : ResolvedRequest) (backoff retries : Nat) (wire : WireRequest)
    (world : World) (h : request.wire (client.urlOf request.path) = .ok wire) :
    Mark.Tries backoff wire retries
      ((client.attempts request backoff retries).course network world) := by
  induction retries generalizing world with
  | zero =>
    rw [attempts, (goes_attempt client network request wire world h).course]
    cases hs : ((network world.sent wire).seenWithin client.patience).answer? with
    | none => exact .givenUp _ hs
    | some answer => exact .answered 0 _ (Option.isSome_iff_exists.mpr ⟨answer, hs⟩)
  | succ retries ih =>
    obtain ⟨hexec, hcourse⟩ := goes_attempt client network request wire world h
    rw [Trial.course] at hcourse
    rw [Trial.exec] at hexec
    rw [Trial.course, attempts, ExceptT.run_mk, Routine.course_bind, hcourse, hexec]
    cases hs : ((network world.sent wire).seenWithin client.patience).answer? with
    | none =>
      exact .again retries _ _ hs (ih (world.sending wire))
    | some answer => exact .answered (retries + 1) _ (Option.isSome_iff_exists.mpr ⟨answer, hs⟩)

/-- An answer that is there in time ends the attempts, however many of them are left. -/
theorem goes_attempts (request : ResolvedRequest) (backoff retries : Nat) (wire : WireRequest)
    (world : World) (delay : Nat) (answer : Answer)
    (h : request.wire (client.urlOf request.path) = .ok wire)
    (ha : network world.sent wire = .answered delay answer) (hd : delay < client.patience) :
    (client.attempts request backoff retries).Goes network world
      (.ok (client.response request answer)) (world.sending wire)
      [.sent wire ⟨delay, some answer⟩] := by
  have hseen : (network world.sent wire).seenWithin client.patience = ⟨delay, some answer⟩ := by
    rw [ha, Fate.seenWithin, if_pos hd]
  have hfirst := goes_attempt client network request wire world h
  rw [hseen] at hfirst
  cases retries with
  | zero =>
    rw [attempts]
    exact hfirst
  | succ retries =>
    obtain ⟨hexec, hcourse⟩ := hfirst
    rw [Trial.course] at hcourse
    rw [Trial.exec] at hexec
    constructor
    · rw [Trial.exec, attempts, ExceptT.run_mk, Routine.run_bind, hexec]
      rfl
    · rw [Trial.course, attempts, ExceptT.run_mk, Routine.course_bind, hcourse, hexec]
      rfl

/-- A request that cannot be sent is not tried at all. -/
theorem goes_attempts_of_refused (request : ResolvedRequest) (backoff retries : Nat) (e : Error)
    (world : World) (h : request.wire (client.urlOf request.path) = .error e) :
    (client.attempts request backoff retries).Goes network world (.error e) world [] := by
  obtain ⟨address?, rfl⟩ := request.unsendable_of_wire _ e h
  cases retries with
  | zero =>
    rw [attempts]
    exact goes_attempt_of_refused client network request _ world h
  | succ retries =>
    rw [attempts, attempt, h]
    exact ⟨rfl, rfl⟩

section Template
variable (retry : RetryPolicy) (template : RequestTemplate) (scope : ScopeId) (world : World)

theorem goes_executeWith_of_unresolved (e : Error)
    (h : template.resolve (world.store.lookup scope) = .error e) :
    (client.executeWith retry template scope).Goes network world (.error e) world [] := by
  apply Trial.goes_bind_of_error
  refine ⟨?_, rfl⟩
  rw [RequestTemplate.resolveIn, Trial.exec_readExcept, h]

variable (request : ResolvedRequest)
  (hr : template.resolve (world.store.lookup scope) = .ok request)
include hr

/-- What is filled in is sent as it is then. -/
theorem goes_executeWith (outcome : Except Error Response) (after : World) (marks : List Mark)
    (h : (client.attempts request retry.backoff retry.retries).Goes network world outcome after
      marks) :
    (client.executeWith retry template scope).Goes network world outcome after marks := by
  refine Trial.goes_bind network _ _ world world after request outcome [] marks ⟨?_, rfl⟩ h
  rw [RequestTemplate.resolveIn, Trial.exec_readExcept, hr]

end Template

/-- The course of a request is empty, or that of tries under its retry policy. -/
theorem course_executeWith_cases (retry : RetryPolicy) (template : RequestTemplate) (scope : ScopeId)
    (world : World) :
    (client.executeWith retry template scope).course network world = [] ∨
      ∃ wire, Mark.Tries retry.backoff wire retry.retries
        ((client.executeWith retry template scope).course network world) := by
  cases hr : template.resolve (world.store.lookup scope) with
  | error e =>
    have hgoes := goes_executeWith_of_unresolved client network retry template scope world e hr
    exact Or.inl hgoes.course
  | ok request =>
    have hgoes := goes_executeWith client network retry template scope world request hr _ _ _
      ⟨rfl, rfl⟩
    rw [hgoes.course]
    cases hw : request.wire (client.urlOf request.path) with
    | error e =>
      exact Or.inl (goes_attempts_of_refused client network request _ _ e world hw).course
    | ok wire => exact Or.inr ⟨wire, tries_attempts client network request _ _ wire world hw⟩

inductive SendsFor (client : Client) : Except Error ResolvedRequest → List WireRequest → Prop
  | unresolved (e : Error) : SendsFor client (.error e) []
  | refused (request : ResolvedRequest) (e : Error)
      (h : request.wire (client.urlOf request.path) = .error e) : SendsFor client (.ok request) []
  | sent (request : ResolvedRequest) (wire : WireRequest) (again : Nat)
      (h : request.wire (client.urlOf request.path) = .ok wire)
      (ha : again ≤ client.retry.retries) :
      SendsFor client (.ok request) (List.replicate (again + 1) wire)

/-- All that is sent for a request is what its template is filled in as. -/
theorem sendsFor_execute (template : RequestTemplate) (scope : ScopeId) (world : World) :
    client.SendsFor (template.resolve (world.store.lookup scope))
      (Mark.requests ((client.execute template scope).course network world)) := by
  rw [execute]
  cases hr : template.resolve (world.store.lookup scope) with
  | error e =>
    have hgoes := goes_executeWith_of_unresolved client network client.retry template scope world e hr
    rw [hgoes.course]
    exact .unresolved e
  | ok request =>
    have hgoes := goes_executeWith client network client.retry template scope world request hr _ _ _
      ⟨rfl, rfl⟩
    rw [hgoes.course]
    cases hw : request.wire (client.urlOf request.path) with
    | error e =>
      rw [(goes_attempts_of_refused client network request _ _ e world hw).course]
      exact .refused request e hw
    | ok wire =>
      have htries := tries_attempts client network request client.retry.backoff client.retry.retries
        wire world hw
      obtain ⟨again, ha, hrequests⟩ := Mark.requests_of_tries _ wire _ _ htries
      rw [hrequests]
      exact .sent request wire again hw ha

theorem events_executeWith (retry : RetryPolicy) (template : RequestTemplate) (scope : ScopeId)
    (world : World) :
    Mark.events ((client.executeWith retry template scope).course network world) = [] := by
  rcases course_executeWith_cases client network retry template scope world with h | ⟨wire, h⟩
  · rw [h, Mark.events_nil]
  · exact Mark.events_of_tries _ wire _ _ h

end Client

/-- The course of a stage is that of its request: the status is only looked at. -/
theorem Fixture.Context.course_request (context : Context) (network : Network) (stage : String)
    (template : RequestTemplate) (expect : StatusClass) (world : World) :
    (context.request stage template expect).course network world =
      (context.client.execute template context.scope).course network world := by
  rw [request, Trial.course_bind_of_quiet, Trial.course_mapError]
  intro response world
  split <;> rfl

end ApiTrial
