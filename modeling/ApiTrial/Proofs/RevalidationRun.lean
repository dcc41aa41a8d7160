import ApiTrial.Proofs.AssertionTarget
import ApiTrial.Proofs.RequestKeys
import ApiTrial.Proofs.RunInTime
import ApiTrial.Proofs.StoreRemoval
import ApiTrial.Scenario.Revalidation

/-! What the check of entity tags decides. The tag of the first answer is what the two other
requests send: it is captured under a key of its own, which an answer without a tag unsets, so that
no tag of an earlier run is ever sent. A server passes exactly if it answers the first request in
full, the same request with its tag as not modified, and another query with that tag in full. -/
namespace ApiTrial

def ResolvedRequest.conditional (tag : String) (request : ResolvedRequest) : ResolvedRequest :=
  { request with headers := request.headers ++ [("If-None-Match", tag)] }

def WireRequest.conditional (tag : String) (request : WireRequest) : WireRequest :=
  { request with headers := request.headers ++ [("If-None-Match", tag)] }

namespace ResolvedRequest

theorem method_of_wire (request : ResolvedRequest) (url : String) (wire : WireRequest)
    (h : request.wire url = .ok wire) : wire.method = request.method := by
  rw [ResolvedRequest.wire] at h
  split at h
  · cases h
  · split_ifs at h
    cases h
    rfl

/-- A tag that can stand in a header makes no difference to whether a request can be sent. -/
theorem wire_conditional (request : ResolvedRequest) (tag url : String)
    (ht : isHeaderValue tag = true) :
    (request.conditional tag).wire url = (request.wire url).map (WireRequest.conditional tag) := by
  have hname : isHeaderName "If-None-Match" = true := by decide +kernel
  have hvalid :
      ((request.conditional tag).headers.all fun h => isHeaderName h.1 && isHeaderValue h.2) =
        request.headers.all fun h => isHeaderName h.1 && isHeaderValue h.2 := by
    rw [conditional, List.all_append]
    simp [hname, ht]
  rw [ResolvedRequest.wire, ResolvedRequest.wire, hvalid]
  cases Address.parse? url with
  | none => rfl
  | some address =>
    dsimp only
    split_ifs <;> rfl

end ResolvedRequest

namespace Response

/-- The text of a header can be sent in a header again. -/
theorem isHeaderValue_of_headerText? (value : List UInt8) (text : String)
    (h : headerText? value = some text) : isHeaderValue text = true := by
  have hbytes : ∀ n < 256, isHeaderText (UInt8.ofNat n) = true →
      ((32 ≤ (Char.ofNat n).toNat && (Char.ofNat n).toNat != 127) ||
        Char.ofNat n == '\t') = true := by
    decide +kernel
  rw [headerText?] at h
  split at h
  swap
  · cases h
  rename_i hall
  obtain rfl := Option.some.inj h
  rw [isHeaderValue, String.toList_ofList, List.all_map, List.all_eq_true]
  intro b hb
  have hshown : isHeaderText (UInt8.ofNat b.toNat) = true := by
    rw [UInt8.ofNat_toNat]
    exact List.all_eq_true.mp hall b hb
  exact hbytes b.toNat b.toNat_lt hshown

theorem isHeaderValue_of_etag? (response : Response) (tag : String)
    (h : response.etag? = some tag) : isHeaderValue tag = true := by
  obtain ⟨value, -, htext⟩ := Option.bind_eq_some_iff.mp h
  exact isHeaderValue_of_headerText? value tag htext

end Response

namespace Revalidation

section Resolving
variable (r : Revalidation) (path : String) (value? : String → Option Json)

theorem substitute_tagPlaceholder :
    Template.substitute tagPlaceholder value? = (valueOf tagKey value?).map Json.splice := by
  have hparse : Template.parse tagPlaceholder = .ok ⟨tagPlaceholder, [.placeholder tagKey]⟩ := by
    decide +kernel
  rw [Template.substitute, hparse]
  show Template.renderSegments value? [.placeholder tagKey] = _
  rw [Template.renderSegments, valueOf]
  cases value? tagKey with
  | none => rfl
  | some value => exact congrArg Except.ok (String.append_empty)

/-- The condition comes behind the default headers and replaces none of them. -/
theorem replaceHeader_of_defaults (defaults : List (String × String))
    (h : (r.request path).defaultHeaders value? = .ok defaults) (tag : String) :
    RequestTemplate.replaceHeader defaults "If-None-Match" tag =
      defaults ++ [("If-None-Match", tag)] := by
  have hother : ∀ name ∈ ["Accept", "Authorization"],
      Text.sameIgnoringCase name "If-None-Match" = false := by
    decide +kernel
  have haccept := hother "Accept" (by simp)
  have htoken := hother "Authorization" (by simp)
  rw [RequestTemplate.defaultHeaders, request] at h
  cases hauth : r.auth with
  | none =>
    rw [hauth] at h
    cases h
    simp [RequestTemplate.replaceHeader, haccept]
  | some role =>
    rw [hauth] at h
    simp only [RequestTemplate.tokenHeader] at h
    cases ht : value? (tokenKey role) with
    | none =>
      rw [ht] at h
      cases h
    | some token =>
      rw [ht] at h
      cases h
      simp [RequestTemplate.replaceHeader, haccept, htoken]

theorem resolveHeaders_conditional (defaults : List (String × String)) :
    RequestTemplate.resolveHeaders value? defaults [("If-None-Match", tagPlaceholder)] =
      (valueOf tagKey value?).map fun tag =>
        RequestTemplate.replaceHeader defaults "If-None-Match" tag.splice := by
  rw [RequestTemplate.resolveHeaders, substitute_tagPlaceholder]
  cases valueOf tagKey value? <;> rfl

/-- The condition is added behind the headers that a request has without it. -/
theorem resolve_conditional :
    ((r.request path).withHeader "If-None-Match" tagPlaceholder).resolve value? =
      (r.request path).resolve value? >>= fun request =>
        (valueOf tagKey value?).map fun tag => request.conditional tag.splice := by
  rw [RequestTemplate.resolve_eq, RequestTemplate.resolve_eq]
  show Template.substitute path value? >>= _ = (Template.substitute path value? >>= _) >>= _
  cases Template.substitute path value? with
  | error e => rfl
  | ok filled =>
    show (r.request path).defaultHeaders value? >>= _ =
      ((r.request path).defaultHeaders value? >>= _) >>= _
    cases hd : (r.request path).defaultHeaders value? with
    | error e => rfl
    | ok defaults =>
      show RequestTemplate.resolveHeaders value? defaults
        [("If-None-Match", tagPlaceholder)] >>= _ = _
      rw [resolveHeaders_conditional]
      simp only [replaceHeader_of_defaults r path value? defaults hd]
      cases valueOf tagKey value? <;> rfl

theorem method_of_resolve (request : ResolvedRequest)
    (h : (r.request path).resolve value? = .ok request) : request.method = .get := by
  rw [RequestTemplate.resolve_eq] at h
  obtain ⟨filled, -, h⟩ := ok_of_bind_eq_ok _ _ _ h
  obtain ⟨defaults, -, h⟩ := ok_of_bind_eq_ok _ _ _ h
  obtain ⟨headers, -, h⟩ := ok_of_bind_eq_ok _ _ _ h
  cases h
  rfl

end Resolving

/-- Behind the first answer its tag is what the variable of the tag holds, whatever it held before,
and no other variable has changed. -/
theorem lookup_captureAll_tag (scope : ScopeId) (response : Response) (store : Store) (key : String)
    (hs : scope < store.length) :
    (Scenario.captureAll scope response [(tagKey, "header:etag")] store).lookup scope key =
      if key = tagKey then response.etag?.map Json.str else store.lookup scope key := by
  have hsource : Response.Source.ofText "header:etag" = .header "etag" := by decide +kernel
  have hcapture : response.capture? "header:etag" = response.etag?.map Json.str := by
    rw [Response.capture?, hsource]
    rfl
  rw [Scenario.lookup_captureAll_singleton scope response _ _ store hs, hcapture]
  exact if_congr eq_comm rfl rfl

/-- What the paths and the token refer to is set, and the variable of the tag is not among it. -/
def Seeded (r : Revalidation) (value? : String → Option Json) : Prop :=
  ∀ path ∈ [r.endpoint, r.otherEndpoint], ∃ keys, (r.request path).placeholders = .ok keys ∧
    ∀ key ∈ keys, key ≠ tagKey ∧ (value? key).isSome = true

/-- The three requests are sent one behind the other and answered, the first with a tag, on which
the others are conditional. -/
structure Exchanged (client : Client) (network : Network) (sent : List WireRequest)
    (same other : ResolvedRequest) (tag : String) (w₁ w₂ w₃ : WireRequest)
    (first second third : Response) : Prop where
  initial : client.Gets network sent same w₁ first
  tagged : first.etag? = some tag
  revalidated : client.Gets network (sent ++ [w₁]) (same.conditional tag) w₂ second
  otherQuery : client.Gets network (sent ++ [w₁] ++ [w₂]) (other.conditional tag) w₃ third

def openingStep (r : Revalidation) : RequestStep where
  id := some initial
  request := r.request r.endpoint
  capture := [(tagKey, "header:etag")]

def conditionalStep (r : Revalidation) (id path : String) : RequestStep where
  id := some id
  request := (r.request path).withHeader "If-None-Match" tagPlaceholder

theorem actions_eq (r : Revalidation) : r.actions = [r.openingStep,
    r.conditionalStep revalidated r.endpoint, r.conditionalStep otherQuery r.otherEndpoint] := rfl

section Actions
variable (r : Revalidation) (scope : ScopeId) (store : Store) (hs : scope < store.length)
  (hk : r.Seeded (store.lookup scope)) (path : String) (hp : path ∈ [r.endpoint, r.otherEndpoint])
  (request : ResolvedRequest) (hr : (r.request path).resolve (store.lookup scope) = .ok request)
include hs hk hp hr

/-- Behind the first answer a path is filled in as before, and the condition is its tag. -/
theorem resolve_behind (id : String) (first : Response) :
    (r.conditionalStep id path).request.resolve
        ((Scenario.captureAll scope first [(tagKey, "header:etag")] store).lookup scope) =
      match first.etag? with
      | some tag => .ok (request.conditional tag)
      | none => .error (.undefinedVariable tagKey) := by
  have hlookup := lookup_captureAll_tag scope first store
  obtain ⟨keys, hlisted, hkeys⟩ := hk path hp
  have hsame : (r.request path).resolve
      ((Scenario.captureAll scope first [(tagKey, "header:etag")] store).lookup scope) =
        .ok request := by
    rw [← hr]
    refine (r.request path).needs_resolve.reads keys _ _ hlisted fun key hm => ?_
    rw [hlookup key hs, if_neg (hkeys key hm).1]
  rw [conditionalStep, resolve_conditional, hsame]
  show (valueOf tagKey _).map _ = _
  rw [valueOf, hlookup tagKey hs, if_pos rfl]
  cases first.etag? <;> rfl

end Actions

section Run
variable (r : Revalidation) (client : Client) (retry : RetryPolicy) (network : Network)
  (scope : ScopeId) (world : World) (hs : scope < world.store.length)
  (hk : r.Seeded (world.store.lookup scope)) (same other : ResolvedRequest)
  (hsame : (r.request r.endpoint).resolve (world.store.lookup scope) = .ok same)

def opened (wire : WireRequest) (first : Response) : World :=
  (world.sending wire).mapStore (Scenario.captureAll scope first [(tagKey, "header:etag")])

include hs hk hsame

/-- Without a tag the first request is the only one that is sent. -/
theorem goes_actions_of_untagged (w₁ : WireRequest) (first : Response)
    (hg : client.Gets network world.sent same w₁ first) (ht : first.etag? = none) :
    ∃ marks, (Scenario.runActions client retry scope 0 r.actions).Goes network world
        (.error (.undefinedVariable tagKey)) (opened scope world w₁ first) marks ∧
      Mark.requests marks = [w₁] := by
  have hsecond := resolve_behind r scope world.store hs hk r.endpoint (by simp) same hsame
    revalidated first
  rw [ht] at hsecond
  rw [actions_eq]
  -- The condition cannot be filled in, since the first answer has unset what a run before had left.
  have hstopped := Scenario.goes_runActions_of_unresolved client retry network scope 1 _
    [r.conditionalStep otherQuery r.otherEndpoint] (opened scope world w₁ first) _ hsecond
  exact Scenario.goes_runActions_of_gets client retry network scope 0 r.openingStep _ world same
    hsame _ w₁ first _ [] hg hstopped

/-- With a tag the second request follows the first, and then comes the third action. -/
theorem goes_actions_of_tagged (tag : String) (w₁ w₂ : WireRequest) (first second : Response)
    (hfirst : client.Gets network world.sent same w₁ first) (ht : first.etag? = some tag)
    (hsecond : client.Gets network (world.sent ++ [w₁]) (same.conditional tag) w₂ second)
    (outcome : Except Error (List Labelled)) (after : World) (back : List Mark)
    (hrest : (Scenario.runActions client retry scope 2
      [r.conditionalStep otherQuery r.otherEndpoint]).Goes network
        ((opened scope world w₁ first).sending w₂) outcome after back) :
    ∃ marks, (Scenario.runActions client retry scope 0 r.actions).Goes network world
        ((outcome.map (⟨revalidated, second⟩ :: ·)).map (⟨initial, first⟩ :: ·)) after marks ∧
      Mark.requests marks = w₁ :: w₂ :: Mark.requests back := by
  have hresolved := resolve_behind r scope world.store hs hk r.endpoint (by simp) same hsame
    revalidated first
  rw [ht] at hresolved
  rw [actions_eq]
  have hgoes := Scenario.goes_runActions_of_gets client retry network scope
  obtain ⟨middle, hmiddle, hmiddleSent⟩ := hgoes 1 _ _ (opened scope world w₁ first)
    (same.conditional tag) hresolved _ w₂ second outcome back hsecond hrest
  obtain ⟨marks, hmarks, hsent⟩ := hgoes 0 r.openingStep _ world same hsame _ w₁ first _ middle
    hfirst hmiddle
  rw [hmiddleSent] at hsent
  exact ⟨marks, hmarks, hsent⟩

variable (hother : (r.request r.otherEndpoint).resolve (world.store.lookup scope) = .ok other)
include hother

/-- Three exchanges as they should be are all that the actions come to. -/
theorem goes_actions_of_exchanged (tag : String) (w₁ w₂ w₃ : WireRequest)
    (first second third : Response)
    (hx : Exchanged client network world.sent same other tag w₁ w₂ w₃ first second third) :
    ∃ after marks, (Scenario.runActions client retry scope 0 r.actions).Goes network world
        (.ok [⟨initial, first⟩, ⟨revalidated, second⟩, ⟨otherQuery, third⟩]) after marks ∧
      Mark.requests marks = [w₁, w₂, w₃] := by
  have hthird := resolve_behind r scope world.store hs hk r.otherEndpoint (by simp) other hother
    otherQuery first
  rw [hx.tagged] at hthird
  obtain ⟨last, hlast, hlastSent⟩ := Scenario.goes_runActions_of_gets client retry network scope 2
    _ [] ((opened scope world w₁ first).sending w₂) (other.conditional tag) hthird _ w₃ third
    (.ok []) [] hx.otherQuery ⟨rfl, rfl⟩
  obtain ⟨marks, hmarks, hsent⟩ := goes_actions_of_tagged r client retry network scope world hs hk
    same hsame tag w₁ w₂ first second hx.initial hx.tagged hx.revalidated _ _ last hlast
  rw [hlastSent] at hsent
  exact ⟨_, marks, hmarks, hsent⟩

/-- If every request that is sent is answered in time, the actions go well only with three answers
and a tag. -/
theorem exchanged_of_ok (ha : ∀ sent request, ∃ delay answer,
      network sent request = .answered delay answer ∧ delay < client.patience)
    (responses : List Labelled) (after : World)
    (h : (Scenario.runActions client retry scope 0 r.actions).exec network world =
      (.ok responses, after)) :
    ∃ tag w₁ w₂ w₃ first second third,
      Exchanged client network world.sent same other tag w₁ w₂ w₃ first second third := by
  have hfails (e : Error) (reached : World) (marks : List Mark)
      (hgoes : (Scenario.runActions client retry scope 0 r.actions).Goes network world (.error e)
        reached marks) : False := by
    cases hgoes.exec.symm.trans h
  have hgets (sent : List WireRequest) (request : ResolvedRequest) (wire : WireRequest)
      (hw : request.wire (client.urlOf request.path) = .ok wire) :
      ∃ response, client.Gets network sent request wire response := by
    obtain ⟨delay, answer, hanswer, htime⟩ := ha sent wire
    exact ⟨_, hw, delay, answer, hanswer, htime, rfl⟩
  cases hw₁ : same.wire (client.urlOf same.path) with
  | error e =>
    have hgoes := Scenario.goes_runActions_of_refused client retry network scope 0 r.openingStep
      [r.conditionalStep revalidated r.endpoint, r.conditionalStep otherQuery r.otherEndpoint] world
      same hsame e hw₁
    exact (hfails e world [] hgoes).elim
  | ok w₁ =>
    obtain ⟨first, hfirst⟩ := hgets world.sent same w₁ hw₁
    cases ht : first.etag? with
    | none =>
      obtain ⟨marks, hgoes, -⟩ := goes_actions_of_untagged r client retry network scope world hs hk
        same hsame w₁ first hfirst ht
      exact (hfails _ _ marks hgoes).elim
    | some tag =>
      have hvalid := first.isHeaderValue_of_etag? tag ht
      have hw₂ : (same.conditional tag).wire (client.urlOf same.path) =
          .ok (w₁.conditional tag) := by
        rw [ResolvedRequest.wire_conditional same tag _ hvalid, hw₁]
        rfl
      obtain ⟨second, hsecond⟩ := hgets (world.sent ++ [w₁]) (same.conditional tag) _ hw₂
      cases hw₃ : (other.conditional tag).wire (client.urlOf other.path) with
      | error e =>
        have hthird := resolve_behind r scope world.store hs hk r.otherEndpoint (by simp) other
          hother otherQuery first
        rw [ht] at hthird
        have hstopped := Scenario.goes_runActions_of_refused client retry network scope 2 _ []
          ((opened scope world w₁ first).sending (w₁.conditional tag)) (other.conditional tag)
          hthird e hw₃
        obtain ⟨marks, hgoes, -⟩ := goes_actions_of_tagged r client retry network scope world hs hk
          same hsame tag w₁ _ first second hfirst ht hsecond _ _ [] hstopped
        exact (hfails e _ marks hgoes).elim
      | ok w₃ =>
        obtain ⟨third, hthird⟩ := hgets (world.sent ++ [w₁] ++ [w₁.conditional tag])
          (other.conditional tag) w₃ hw₃
        exact ⟨tag, w₁, _, w₃, first, second, third, hfirst, ht, hsecond, hthird⟩

end Run

/-- What is sent under a condition is what would be sent without it, and the tag behind that. -/
theorem conditional_of_gets (client : Client) (network : Network) (sent : List WireRequest)
    (request : ResolvedRequest) (tag : String) (wire : WireRequest) (response : Response)
    (ht : isHeaderValue tag = true)
    (h : client.Gets network sent (request.conditional tag) wire response) :
    ∃ plain, request.wire (client.urlOf request.path) = .ok plain ∧
      wire = plain.conditional tag := by
  have hsendable : (request.conditional tag).wire (client.urlOf request.path) = .ok wire :=
    h.sendable
  rw [request.wire_conditional tag _ ht] at hsendable
  cases hw : request.wire (client.urlOf request.path) with
  | error e =>
    rw [hw] at hsendable
    cases hsendable
  | ok plain =>
    rw [hw] at hsendable
    exact ⟨plain, rfl, (Except.ok.inj hsendable).symm⟩

/-- The second request is the first with the condition, and all three read only. -/
theorem wires_of_exchanged (client : Client) (network : Network) (sent : List WireRequest)
    (same other : ResolvedRequest) (hsame : same.method = .get) (hother : other.method = .get)
    (tag : String) (w₁ w₂ w₃ : WireRequest) (first second third : Response)
    (hx : Exchanged client network sent same other tag w₁ w₂ w₃ first second third) :
    (∀ wire ∈ [w₁, w₂, w₃], wire.method = .get) ∧ w₂ = w₁.conditional tag ∧
    ∃ plain, other.wire (client.urlOf other.path) = .ok plain ∧ w₃ = plain.conditional tag := by
  have hvalid := first.isHeaderValue_of_etag? tag hx.tagged
  obtain ⟨plain, hplain, hsecond⟩ := conditional_of_gets client network _ same tag w₂ second hvalid
    hx.revalidated
  obtain rfl : w₁ = plain := Except.ok.inj (hx.initial.sendable.symm.trans hplain)
  have hthird := conditional_of_gets client network _ other tag w₃ third hvalid hx.otherQuery
  have hmethods : w₁.method = .get ∧ w₂.method = .get ∧ w₃.method = .get :=
    ⟨(same.method_of_wire _ w₁ hx.initial.sendable).trans hsame,
      ((same.conditional tag).method_of_wire _ w₂ hx.revalidated.sendable).trans hsame,
      ((other.conditional tag).method_of_wire _ w₃ hx.otherQuery.sendable).trans hother⟩
  refine ⟨?_, hsecond, hthird⟩
  simpa using hmethods

section Judging
variable (value? : String → Option Json) (responses : List Labelled) (name id : String)
  (response : Response) (h : Assertion.select (some id) responses = .ok response)
include h

theorem passed_ofStatus_iff (status : Nat) :
    (((Assertion.ofStatus name status).on id).verdict responses value?).passed = true ↔
      response.status = status := by
  have hcheck : ((Assertion.ofStatus name status).on id).checkOn response value? =
      Assertion.checkStatus response status := by
    show (Assertion.checkStatus response status >>= fun _ => .ok ()) = _
    cases Assertion.checkStatus response status <;> rfl
  rw [Assertion.passed_verdict_iff _ responses value? response h, hcheck, Assertion.checkStatus,
    require_eq_ok_iff, beq_iff_eq]

theorem passed_ofBodyEmpty_iff (empty : Bool) :
    (((Assertion.ofBodyEmpty name empty).on id).verdict responses value?).passed = true ↔
      response.isBodyEmpty = empty := by
  have hcheck : ((Assertion.ofBodyEmpty name empty).on id).checkOn response value? =
      Assertion.checkBodyEmpty response empty := by
    rw [Assertion.checkOn, Assertion.checkResponse]
    simp only [Assertion.on, Assertion.ofBodyEmpty, Assertion.readsResponse, whenSet,
      Option.isSome_some, Option.isSome_none, Bool.or_true, Bool.true_or, if_true]
    cases Assertion.checkBodyEmpty response empty <;> rfl
  rw [Assertion.passed_verdict_iff _ responses value? response h, hcheck, Assertion.checkBodyEmpty,
    require_eq_ok_iff, beq_iff_eq]

end Judging

/-- The four assertions are about the responses of their own actions. -/
theorem passed_assertions_iff (value? : String → Option Json) (first second third : Response) :
    ((assertions.map fun a => a.verdict
      [⟨initial, first⟩, ⟨revalidated, second⟩, ⟨otherQuery, third⟩] value?).all
        Verdict.passed) = true ↔
      first.status = 200 ∧ second.status = 304 ∧ second.isBodyEmpty = true ∧
        third.status = 200 := by
  let responses : List Labelled := [⟨initial, first⟩, ⟨revalidated, second⟩, ⟨otherQuery, third⟩]
  have hfirst : Assertion.select (some initial) responses = .ok first := rfl
  have hsecond : Assertion.select (some revalidated) responses = .ok second := rfl
  have hthird : Assertion.select (some otherQuery) responses = .ok third := rfl
  rw [assertions, List.all_map]
  simp only [List.all_cons, List.all_nil, Function.comp_apply, Bool.and_eq_true, Bool.and_true]
  rw [passed_ofStatus_iff value? responses _ initial first hfirst,
    passed_ofStatus_iff value? responses _ revalidated second hsecond,
    passed_ofBodyEmpty_iff value? responses _ revalidated second hsecond,
    passed_ofStatus_iff value? responses _ otherQuery third hthird]

section Report
variable (r : Revalidation) (name : String) (runner : Runner) (network : Network) (scope : ScopeId)
  (world : World) (hs : scope < world.store.length) (hk : r.Seeded (world.store.lookup scope))
  (hi : ∀ phase limit, (((r.scenario name).run runner scope).run network world).1.failure ≠
    some ⟨phase, .timeout limit⟩)
  (same other : ResolvedRequest)
  (hsame : (r.request r.endpoint).resolve (world.store.lookup scope) = .ok same)
  (hother : (r.request r.otherEndpoint).resolve (world.store.lookup scope) = .ok other)
include hs hk hi hsame hother

/-- Three answers and a tag are judged by the four assertions. -/
theorem report_of_exchanged (tag : String) (w₁ w₂ w₃ : WireRequest) (first second third : Response)
    (hx : Exchanged runner.client network world.sent same other tag w₁ w₂ w₃ first second third) :
    Mark.requests (((r.scenario name).run runner scope).course network world) = [w₁, w₂, w₃] ∧
    ((((r.scenario name).run runner scope).run network world).1.passed = true ↔
      first.status = 200 ∧ second.status = 304 ∧ second.isBodyEmpty = true ∧
        third.status = 200) := by
  obtain ⟨after, marks, hgoes, hsent⟩ := goes_actions_of_exchanged r runner.client
    ((r.scenario name).retryPolicy runner.client) network scope world hs hk same other hsame hother
    tag w₁ w₂ w₃ first second third hx
  obtain ⟨hrequests, hok, -⟩ := Scenario.report_of_actions runner network scope (r.scenario name)
    world after _ marks rfl rfl rfl hgoes hi
  obtain ⟨hnone, hverdicts⟩ := hok _ rfl
  refine ⟨hrequests.trans hsent, ?_⟩
  rw [Report.passed, hnone, hverdicts, Option.isNone_none, Bool.true_and]
  exact passed_assertions_iff _ first second third

/-- A run that passes has had the three exchanges. -/
theorem exchanged_of_passed (ha : ∀ sent request, ∃ delay answer,
      network sent request = .answered delay answer ∧ delay < runner.client.patience)
    (h : (((r.scenario name).run runner scope).run network world).1.passed = true) :
    ∃ tag w₁ w₂ w₃ first second third,
      Exchanged runner.client network world.sent same other tag w₁ w₂ w₃ first second third := by
  rcases hgo : (Scenario.runActions runner.client ((r.scenario name).retryPolicy runner.client)
    scope 0 r.actions).exec network world with ⟨outcome, after⟩
  obtain ⟨-, -, herror⟩ := Scenario.report_of_actions runner network scope (r.scenario name) world
    after outcome _ rfl rfl rfl ⟨hgo, rfl⟩ hi
  cases outcome with
  | error e =>
    rw [Report.passed, herror e rfl] at h
    cases h
  | ok responses =>
    exact exchanged_of_ok r runner.client _ network scope world hs hk same other hsame hother ha
      responses after hgo

end Report

/-- The check of entity tags passes exactly if the first answer is in full and has a tag, the
second, which is asked with that tag, says that nothing was modified and has no body, and the third,
which is asked with that tag too, is in full. Without a tag nothing more is asked: the run fails for
the variable of the tag, whatever that was before. -/
theorem passes_iff_revalidated (r : Revalidation) (name : String) (runner : Runner)
    (network : Network) (scope : ScopeId) (world : World) (hs : scope < world.store.length)
    (hk : r.Seeded (world.store.lookup scope))
    (ha : ∀ sent request, ∃ delay answer,
      network sent request = .answered delay answer ∧ delay < runner.client.patience)
    (hi : ∀ phase limit, (((r.scenario name).run runner scope).run network world).1.failure ≠
      some ⟨phase, .timeout limit⟩) :
    let report := (((r.scenario name).run runner scope).run network world).1
    let requests := Mark.requests (((r.scenario name).run runner scope).course network world)
    ∃ same other, (r.request r.endpoint).resolve (world.store.lookup scope) = .ok same ∧
      (r.request r.otherEndpoint).resolve (world.store.lookup scope) = .ok other ∧
      (report.passed = true ↔ ∃ tag w₁ w₂ w₃ first second third,
        Exchanged runner.client network world.sent same other tag w₁ w₂ w₃ first second third ∧
        first.status = 200 ∧ second.status = 304 ∧ second.isBodyEmpty = true ∧ third.status = 200) ∧
      (∀ tag w₁ w₂ w₃ first second third,
        Exchanged runner.client network world.sent same other tag w₁ w₂ w₃ first second third →
        requests = [w₁, w₂, w₃] ∧ (∀ wire ∈ requests, wire.method = .get) ∧
        w₂ = w₁.conditional tag ∧
        ∃ plain, other.wire (runner.client.urlOf other.path) = .ok plain ∧
          w₃ = plain.conditional tag) ∧
      ∀ w₁ first, runner.client.Gets network world.sent same w₁ first → first.etag? = none →
        requests = [w₁] ∧ report.failure = some ⟨.acting, .undefinedVariable tagKey⟩ := by
  intro report requests
  obtain ⟨sameKeys, hsameListed, hsameKeys⟩ := hk r.endpoint (by simp)
  obtain ⟨otherKeys, hotherListed, hotherKeys⟩ := hk r.otherEndpoint (by simp)
  obtain ⟨same, hsame⟩ := (r.request r.endpoint).needs_resolve.fills (world.store.lookup scope)
    sameKeys hsameListed fun key hm => (hsameKeys key hm).2
  obtain ⟨other, hother⟩ := (r.request r.otherEndpoint).needs_resolve.fills
    (world.store.lookup scope) otherKeys hotherListed fun key hm => (hotherKeys key hm).2
  have hreport := report_of_exchanged r name runner network scope world hs hk hi same other hsame
    hother
  refine ⟨same, other, hsame, hother, ⟨?_, ?_⟩, ?_, ?_⟩
  · intro hpassed
    obtain ⟨tag, w₁, w₂, w₃, first, second, third, hx⟩ := exchanged_of_passed r name runner network
      scope world hs hk hi same other hsame hother ha hpassed
    have hstatuses := (hreport tag w₁ w₂ w₃ first second third hx).2.mp hpassed
    exact ⟨tag, w₁, w₂, w₃, first, second, third, hx, hstatuses⟩
  · rintro ⟨tag, w₁, w₂, w₃, first, second, third, hx, hstatuses⟩
    exact (hreport tag w₁ w₂ w₃ first second third hx).2.mpr hstatuses
  · intro tag w₁ w₂ w₃ first second third hx
    have hrequests : requests = [w₁, w₂, w₃] := (hreport tag w₁ w₂ w₃ first second third hx).1
    have hgets := method_of_resolve r r.endpoint (world.store.lookup scope) same hsame
    have hgets' := method_of_resolve r r.otherEndpoint (world.store.lookup scope) other hother
    rw [hrequests]
    exact ⟨rfl, wires_of_exchanged runner.client network world.sent same other hgets hgets' tag
      w₁ w₂ w₃ first second third hx⟩
  · intro w₁ first hg ht
    obtain ⟨marks, hgoes, hsent⟩ := goes_actions_of_untagged r runner.client
      ((r.scenario name).retryPolicy runner.client) network scope world hs hk same hsame w₁ first hg
      ht
    obtain ⟨hrequests, -, herror⟩ := Scenario.report_of_actions runner network scope
      (r.scenario name) world _ _ marks rfl rfl rfl hgoes hi
    exact ⟨hrequests.trans hsent, herror _ rfl⟩

def openEvents : Revalidation where
  endpoint := "/events?status=\x7b\x7bstatus\x7d\x7d"
  otherEndpoint := "/events?status=\x7b\x7bstatus\x7d\x7d&page=1"
  auth := some "user"

def taggingNetwork : Network := fun _ request =>
  if request.url = "http://api.test/events?status=open" then
    if request.headers.contains ("If-None-Match", "v7") then .answered 1 { status := 304 }
    else .answered 1 { status := 200, headers := [("ETag", [118, 55])], body := [91, 49, 93] }
  else .answered 1 { status := 200, body := [91, 50, 93] }

def staleWorld : World where
  store := [⟨"root/lane", some 0, [("cached_etag", some (.str "v1"))]⟩,
    ⟨"root", none, [("cached_etag", some (.str "v0")), ("status", some (.str "open")),
      ("user_token", some (.str "u7"))]⟩]

def untaggedNetwork : Network := fun _ _ => .answered 1 { status := 200 }

/-- With tags the run passes, and the second request is the first with a condition. Without tags one
request is sent, although there is an old tag. -/
theorem passes_iff_revalidated_openEvents :
    let run := (openEvents.scenario "open events").run Scenario.ticketingRunner 1
    openEvents.Seeded (staleWorld.store.lookup 1) ∧
    (run.run taggingNetwork staleWorld).1.passed = true ∧
    (∃ tag w₁ w₃, Mark.requests (run.course taggingNetwork staleWorld) =
      [w₁, w₁.conditional tag, w₃]) ∧
    (run.run untaggedNetwork staleWorld).1.failure = some ⟨.acting, .undefinedVariable tagKey⟩ ∧
    ∃ w₁, Mark.requests (run.course untaggedNetwork staleWorld) = [w₁] := by
  intro run
  have hk : openEvents.Seeded (staleWorld.store.lookup 1) := by
    intro path hp
    have hlisted : (openEvents.request path).placeholders = .ok ["status", "user_token"] := by
      rcases List.mem_pair.mp hp with rfl | rfl <;> decide +kernel
    exact ⟨_, hlisted, by decide⟩
  have htagging (sent : List WireRequest) (request : WireRequest) : ∃ delay answer,
      taggingNetwork sent request = .answered delay answer ∧
        delay < Scenario.ticketingRunner.client.patience := by
    rw [taggingNetwork]
    split_ifs <;> exact ⟨1, _, rfl, by decide⟩
  have huntagged (sent : List WireRequest) (request : WireRequest) : ∃ delay answer,
      untaggedNetwork sent request = .answered delay answer ∧
        delay < Scenario.ticketingRunner.client.patience :=
    ⟨1, _, rfl, by decide⟩
  have hpassed : (run.run taggingNetwork staleWorld).1.passed = true := by decide +kernel
  have hfailure : (run.run untaggedNetwork staleWorld).1.failure =
      some ⟨.acting, .undefinedVariable tagKey⟩ := by
    decide +kernel
  have hnone := (Report.passed_iff.mp hpassed).1
  have hinTime (phase : Phase) (limit : Nat) :
      (run.run taggingNetwork staleWorld).1.failure ≠ some ⟨phase, .timeout limit⟩ := by
    rw [hnone]
    exact nofun
  have hinTime' (phase : Phase) (limit : Nat) :
      (run.run untaggedNetwork staleWorld).1.failure ≠ some ⟨phase, .timeout limit⟩ := by
    rw [hfailure]
    exact nofun
  obtain ⟨same, other, -, -, hiff, hsent, -⟩ := passes_iff_revalidated openEvents "open events"
    Scenario.ticketingRunner taggingNetwork 1 staleWorld (by decide) hk htagging hinTime
  obtain ⟨tag, w₁, w₂, w₃, first, second, third, hx, -⟩ := hiff.mp hpassed
  obtain ⟨hrequests, -, rfl, -⟩ := hsent tag w₁ w₂ w₃ first second third hx
  obtain ⟨same', other', hsame, -, -, -, hstops⟩ := passes_iff_revalidated openEvents "open events"
    Scenario.ticketingRunner untaggedNetwork 1 staleWorld (by decide) hk huntagged hinTime'
  have hresolved : (openEvents.request openEvents.endpoint).resolve (staleWorld.store.lookup 1) =
      .ok ⟨.get, "/events?status=open", [("Accept", "application/json"),
        ("Authorization", "Bearer u7")], none⟩ := by
    decide +kernel
  obtain rfl := Except.ok.inj (hsame.symm.trans hresolved)
  have hwire : ResolvedRequest.wire ⟨.get, "/events?status=open", [("Accept", "application/json"),
      ("Authorization", "Bearer u7")], none⟩
        (Scenario.ticketingRunner.client.urlOf "/events?status=open") =
      .ok ⟨.get, "http://api.test/events?status=open", [("Accept", "application/json"),
        ("Authorization", "Bearer u7")], none⟩ := by
    decide +kernel
  obtain ⟨hone, -⟩ := hstops _ _ ⟨hwire, 1, _, rfl, by decide, rfl⟩ rfl
  exact ⟨hk, hpassed, ⟨tag, w₁, w₃, hrequests⟩, hfailure, _, hone⟩

end Revalidation

end ApiTrial
