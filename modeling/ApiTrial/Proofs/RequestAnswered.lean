import ApiTrial.Proofs.RequestKeys
import ApiTrial.Proofs.RunInTime

/-! Requests that are answered at the first try. If no request of a course goes without an answer,
nothing is sent twice, so that each request that goes well is sent once and its response is what the
network has for it behind all that was sent before. -/
namespace ApiTrial

namespace Mark

def isHeard : Mark → Bool
  | sent _ seen => seen.answer?.isSome
  | _ => true

/-- No request of a course goes without an answer. -/
def Heard (course : List Mark) : Prop := ∀ mark ∈ course, mark.isHeard = true

instance : DecidablePred Heard := fun course =>
  inferInstanceAs (Decidable (∀ mark ∈ course, mark.isHeard = true))

theorem heard_append (front back : List Mark) :
    Heard (front ++ back) ↔ Heard front ∧ Heard back := by
  simp only [Heard, List.mem_append, or_imp, forall_and]

end Mark

/-- Whoever sees an answer waits longer than it takes. -/
theorem Fate.answered_of_seenWithin (patience : Nat) (fate : Fate)
    (h : (fate.seenWithin patience).answer?.isSome = true) :
    ∃ delay answer, fate = .answered delay answer ∧ delay < patience := by
  cases fate with
  | answered delay answer =>
    by_cases hd : delay < patience
    · exact ⟨delay, answer, rfl, hd⟩
    · rw [seenWithin, if_neg hd] at h
      cases h
  | broken delay => cases h
  | silent => cases h

namespace RequestTemplate

/-- A request that is filled in has the method of its template, and its path is filled in. -/
theorem path_of_resolve (template : RequestTemplate) (value? : String → Option Json)
    (request : ResolvedRequest) (h : template.resolve value? = .ok request) :
    request.method = template.method ∧
      Template.substitute template.path value? = .ok request.path := by
  rw [resolve_eq] at h
  obtain ⟨path, hpath, h⟩ := ok_of_bind_eq_ok _ _ _ h
  obtain ⟨defaults, -, h⟩ := ok_of_bind_eq_ok _ _ _ h
  obtain ⟨headers, -, h⟩ := ok_of_bind_eq_ok _ _ _ h
  cases hbody : resolveBody value? template.body with
  | error e =>
    rw [hbody] at h
    cases h
  | ok body =>
    rw [hbody] at h
    cases h
    exact ⟨rfl, hpath⟩

end RequestTemplate

namespace Client
variable (client : Client) (network : Network)

/-- Requests that are sent one behind the other, each with its response. -/
inductive GetsAll : List WireRequest → List (WireRequest × Response) → Prop
  | nil (sent : List WireRequest) : GetsAll sent []
  | cons (sent : List WireRequest) (wire : WireRequest) (response : Response)
      (rest : List (WireRequest × Response))
      (h : client.Gets network sent response.request wire response)
      (hr : GetsAll (sent ++ [wire]) rest) : GetsAll sent ((wire, response) :: rest)

theorem getsAll_append (sent : List WireRequest) (front back : List (WireRequest × Response))
    (hf : client.GetsAll network sent front)
    (hb : client.GetsAll network (sent ++ front.map Prod.fst) back) :
    client.GetsAll network sent (front ++ back) := by
  induction hf with
  | nil sent => rwa [List.map_nil, List.append_nil] at hb
  | cons sent wire response rest h hr ih =>
    refine .cons sent wire response _ h (ih ?_)
    rwa [List.append_assoc, List.singleton_append]

/-- Whatever comes of a request that can be sent, its course begins with it. -/
theorem exists_course_attempts (request : ResolvedRequest) (backoff retries : Nat)
    (wire : WireRequest) (world : World)
    (h : request.wire (client.urlOf request.path) = .ok wire) :
    ∃ rest, (client.attempts request backoff retries).course network world =
      .sent wire ((network world.sent wire).seenWithin client.patience) :: rest := by
  have hfirst := (goes_attempt client network request wire world h).course
  cases retries with
  | zero => exact ⟨[], hfirst⟩
  | succ retries =>
    rw [Trial.course] at hfirst
    rw [Trial.course, attempts, ExceptT.run_mk, Routine.course_bind, hfirst]
    exact ⟨_, rfl⟩

/-- A request that goes well, with no attempt unanswered, was sent once, filled in with what the
scope sees. -/
theorem gets_of_heard (template : RequestTemplate) (scope : ScopeId) (world after : World)
    (response : Response) (marks : List Mark)
    (h : (client.execute template scope).Goes network world (.ok response) after marks)
    (hm : Mark.Heard marks) :
    ∃ wire, template.resolve (world.store.lookup scope) = .ok response.request ∧
      client.Gets network world.sent response.request wire response ∧
      after = world.sending wire ∧ Mark.requests marks = [wire] := by
  obtain ⟨hexec, hcourse⟩ := h
  rw [execute] at hexec hcourse
  cases hr : template.resolve (world.store.lookup scope) with
  | error e =>
    have hgoes :=
      goes_executeWith_of_unresolved client network client.retry template scope world e hr
    rw [hgoes.exec] at hexec
    cases hexec
  | ok request =>
    have hattempts := goes_executeWith client network client.retry template scope world request hr
    cases hw : request.wire (client.urlOf request.path) with
    | error e =>
      have hgoes := hattempts _ _ _ (goes_attempts_of_refused client network request _ _ e world hw)
      rw [hgoes.exec] at hexec
      cases hexec
    | ok wire =>
      obtain ⟨rest, hrest⟩ := exists_course_attempts client network request client.retry.backoff
        client.retry.retries wire world hw
      have hfirst :
          Mark.sent wire ((network world.sent wire).seenWithin client.patience) ∈ marks := by
        rw [← hcourse, (hattempts _ _ _ ⟨rfl, rfl⟩).course, hrest]
        exact List.mem_cons_self
      obtain ⟨delay, answer, ha, hd⟩ := Fate.answered_of_seenWithin _ _ (hm _ hfirst)
      have hgoes := hattempts _ _ _ (goes_attempts client network request client.retry.backoff
        client.retry.retries wire world delay answer hw ha hd)
      rw [hgoes.exec] at hexec
      rw [hgoes.course] at hcourse
      cases hexec
      cases hcourse
      exact ⟨wire, rfl, ⟨hw, delay, answer, ha, hd, rfl⟩, rfl, rfl⟩

end Client

/-- A stage that goes well, with no attempt unanswered, has sent its request once. -/
theorem Fixture.Context.gets_of_heard (context : Context) (network : Network) (stage : String)
    (template : RequestTemplate) (expect : StatusClass) (world after : World) (response : Response)
    (marks : List Mark)
    (h : (context.request stage template expect).Goes network world (.ok response) after marks)
    (hm : Mark.Heard marks) :
    ∃ wire, template.resolve (world.store.lookup context.scope) = .ok response.request ∧
      context.client.Gets network world.sent response.request wire response ∧
      after = world.sending wire ∧ Mark.requests marks = [wire] := by
  obtain ⟨found, middle, front, back, hexecute, hstatus, rfl⟩ := Trial.goes_of_bind _ _ _ _ _ _ _ h
  have hexecute := Trial.goes_of_mapError network _ _ world middle found front hexecute
  have hsame : found = response ∧ middle = after ∧ back = [] := by
    obtain ⟨hs, hc⟩ := hstatus
    split at hs
    · rename_i hx
      cases hs
      rw [if_pos hx] at hc
      exact ⟨rfl, rfl, hc.symm⟩
    · cases hs
  obtain ⟨rfl, rfl, rfl⟩ := hsame
  rw [List.append_nil] at hm ⊢
  exact context.client.gets_of_heard network template context.scope world middle found front
    hexecute hm

namespace Fixture.Context
variable {β : Type} (context : Context) (network : Network) (stage : String) (world after : World)
  (b : β) (marks : List Mark)

/-- A build that goes on from a stage. -/
theorem goes_of_request (template : RequestTemplate) (expect : StatusClass) (f : Response → Trial β)
    (h : (context.request stage template expect >>= f).Goes network world (.ok b) after marks)
    (hm : Mark.Heard marks) :
    ∃ response wire back,
      template.resolve (world.store.lookup context.scope) = .ok response.request ∧
      context.client.Gets network world.sent response.request wire response ∧
      (f response).Goes network (world.sending wire) (.ok b) after back ∧ Mark.Heard back ∧
      Mark.requests marks = wire :: Mark.requests back := by
  obtain ⟨response, middle, front, back, hrequest, hrest, rfl⟩ := Trial.goes_of_bind _ _ _ _ _ _ _ h
  obtain ⟨hfront, hback⟩ := (Mark.heard_append front back).mp hm
  obtain ⟨wire, hresolve, hgets, rfl, hsent⟩ := context.gets_of_heard network stage template expect
    world middle response front hrequest hfront
  refine ⟨response, wire, back, hresolve, hgets, hrest, hback, ?_⟩
  rw [Mark.requests_append, hsent, List.singleton_append]

/-- A build that takes a value from a response goes on with the value in its scope. -/
theorem goes_of_take (response : Response) (source key : String) (f : Unit → Trial β)
    (h : (Trial.ofExcept (context.extract stage response source) >>= fun value =>
      context.set key value >>= f).Goes network world (.ok b) after marks) :
    ∃ value, response.capture? source = some value ∧
      (f ()).Goes network (world.mapStore fun store => store.set context.scope key value) (.ok b)
        after marks := by
  obtain ⟨value, found, front, back, ⟨htake, rfl⟩, hback, rfl⟩ := Trial.goes_of_bind _ _ _ _ _ _ _ h
  obtain ⟨_, middle, first, last, ⟨hset, rfl⟩, hlast, rfl⟩ := Trial.goes_of_bind _ _ _ _ _ _ _ hback
  rw [Trial.exec_ofExcept, Prod.mk.injEq, extract] at htake
  obtain ⟨hvalue, rfl⟩ := htake
  cases hset
  refine ⟨value, ?_, hlast⟩
  cases hc : response.capture? source with
  | none =>
    rw [hc] at hvalue
    cases hvalue
  | some v =>
    rw [hc] at hvalue
    exact congrArg some (Except.ok.inj hvalue)

/-- The outputs of a build end it: they are what its scope sees. -/
theorem outputsIn_of_goes (keys : List String) (produced : Outputs)
    (h : (context.outputs keys).Goes network world (.ok produced) after marks) :
    context.outputsIn world.store keys = .ok produced ∧ after = world ∧ marks = [] := by
  obtain ⟨hexec, rfl⟩ := h
  rw [outputs, Trial.exec_readExcept, Prod.mk.injEq] at hexec
  exact ⟨hexec.1, hexec.2.symm, rfl⟩

/-- Outputs whose values are seen. -/
theorem outputsIn_of_seen (store : Store) (entries : List (String × Json))
    (h : ∀ entry ∈ entries, store.lookup context.scope entry.1 = some entry.2) :
    context.outputsIn store (Table.keys entries) =
      .ok (entries.foldr (fun entry outputs => Table.insert entry.1 entry.2 outputs) []) := by
  induction entries with
  | nil => rfl
  | cons entry rest ih =>
    rw [Table.keys, List.map_cons, outputsIn, h entry List.mem_cons_self]
    have hrest := ih fun e he => h e (List.mem_cons_of_mem _ he)
    rw [Table.keys] at hrest
    simp only [hrest]
    rfl

end Fixture.Context

end ApiTrial
