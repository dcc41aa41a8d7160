import ApiTrial.Network.Client
import ApiTrial.Proofs.RoutineOutcome
import Mathlib.Tactic.SplitIfs

/-! What becomes of a request. It is filled in or fails for a placeholder; once it is filled in it is
sent, and all that can go wrong is that it is refused or gets no answer. -/
namespace ApiTrial

def Error.isSubstitution : Error → Bool
  | undefinedVariable _ | malformedTemplate .. => true
  | _ => false

theorem ResolvedRequest.unsendable_of_wire (request : ResolvedRequest) (url : String) (e : Error)
    (h : request.wire url = .error e) : ∃ address?, e = unsendable address? := by
  rw [wire] at h
  split at h
  · exact ⟨none, (Except.error.inj h).symm⟩
  · split_ifs at h <;> exact ⟨_, (Except.error.inj h).symm⟩

namespace Client
variable (I : World → Prop) (E : Error → Prop)

/-- Sending keeps every invariant that a sent request keeps, and fails for want of an answer or
because the request cannot be sent. -/
theorem keeps_attempt (hi : ∀ request w, I w → I (w.sending request))
    (ht : ∀ reason, E (.transport reason)) (hr : ∀ reason, E (.invalidRequest reason))
    (client : Client) (request : ResolvedRequest) :
    Trial.Keeps I (fun _ => True) E (client.attempt request) := by
  rw [Trial.Keeps, attempt, ExceptT.run_mk]
  cases hw : request.wire (client.urlOf request.path) with
  | error e =>
    obtain ⟨address?, rfl⟩ := request.unsendable_of_wire _ e hw
    exact .done _ (hr _)
  | ok wire =>
    apply Routine.Keeps.send _ _ _ (hi wire)
    rintro ⟨elapsed, answer?⟩
    cases answer? with
    | none => exact .done _ (ht _)
    | some answer => exact .done _ True.intro

/-- Sending a request keeps what each single sending keeps, however often it is tried. -/
theorem keeps_attempts (hi : ∀ request w, I w → I (w.sending request))
    (ht : ∀ reason, E (.transport reason)) (hr : ∀ reason, E (.invalidRequest reason))
    (client : Client) (request : ResolvedRequest) (backoff retries : Nat) :
    Trial.Keeps I (fun _ => True) E (client.attempts request backoff retries) := by
  induction retries with
  | zero =>
    rw [attempts]
    exact keeps_attempt I E hi ht hr client request
  | succ retries ih =>
    rw [Trial.Keeps, attempts, ExceptT.run_mk]
    apply Routine.keeps_bind I _ _ _ _ (keeps_attempt I E hi ht hr client request)
    intro outcome ho
    cases outcome with
    | ok response => exact .done _ True.intro
    | error e =>
      dsimp only
      split
      · exact .pause _ _ ih
      · exact .done _ ho

theorem keeps_executeWith (hi : ∀ request w, I w → I (w.sending request)) (he : ∀ e, E e)
    (client : Client) (retry : RetryPolicy) (template : RequestTemplate) (scope : ScopeId) :
    Trial.Keeps I (fun _ => True) E (client.executeWith retry template scope) := by
  apply Trial.keeps_bind I E (fun _ => True) (fun _ => True)
  · apply Trial.keeps_readExcept
    intro w _
    cases template.resolve (w.store.lookup scope) with
    | ok request => exact True.intro
    | error e => exact he e
  · intro request _
    exact keeps_attempts I E hi (fun _ => he _) (fun _ => he _) client request _ _

theorem store_of_executeWith (network : Network) (client : Client) (retry : RetryPolicy)
    (template : RequestTemplate) (scope : ScopeId) (world : World) :
    ((client.executeWith retry template scope).exec network world).2.store = world.store :=
  (Trial.exec_of_keeps (fun w => w.store = world.store) (fun _ => True) _ network _ world
    (keeps_executeWith _ _ (fun _ _ h => h) (fun _ => True.intro) client retry template scope)
    rfl).2

/-- A request that is filled in gets an answer or none, or is refused. -/
theorem executeWith_error_of_resolved (network : Network) (client : Client) (retry : RetryPolicy)
    (template : RequestTemplate) (scope : ScopeId) (world : World) (resolved : ResolvedRequest)
    (e : Error) (hr : template.resolve (world.store.lookup scope) = .ok resolved)
    (h : ((client.executeWith retry template scope).exec network world).1 = .error e) :
    (∃ reason, e = .transport reason) ∨ ∃ reason, e = .invalidRequest reason := by
  have hsent : ((client.executeWith retry template scope).exec network world) =
      (client.sendWith retry resolved).exec network world :=
    Trial.exec_bind_of_ok _ _ _ _ world resolved (by rw [RequestTemplate.resolveIn,
      Trial.exec_readExcept, hr])
  have hx := (Trial.exec_of_keeps (fun _ => True)
    (fun e => (∃ reason, e = .transport reason) ∨ ∃ reason, e = .invalidRequest reason)
    (fun _ => True) network _ world
    (keeps_attempts _ _ (fun _ _ _ => True.intro) (fun reason => Or.inl ⟨reason, rfl⟩)
      (fun reason => Or.inr ⟨reason, rfl⟩) client resolved retry.backoff retry.retries)
    True.intro).1
  rw [hsent, sendWith] at h
  rw [h] at hx
  exact hx

end Client

end ApiTrial
