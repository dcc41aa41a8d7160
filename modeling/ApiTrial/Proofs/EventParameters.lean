import ApiTrial.Proofs.JsonLiteral
import ApiTrial.Proofs.PaidCart

/-! What an event is made with. Its parameters are written into the bodies of two requests, which
are filled in only then; so a parameter arrives as it was given where no placeholder begins in it.
The organization and the venue are spliced into strings, and stay there where they stand for
themselves. -/
namespace ApiTrial

/-- What is sent for a request that goes well: the request as it is filled in, once and again for
each new try. -/
theorem Client.sendsFor_of_ok (client : Client) (network : Network) (template : RequestTemplate)
    (scope : ScopeId) (world after : World) (response : Response)
    (h : (client.execute template scope).exec network world = (.ok response, after)) :
    ∃ request, template.resolve (world.store.lookup scope) = .ok request ∧
      client.SendsFor (.ok request)
        (Mark.requests ((client.execute template scope).course network world)) ∧
      Mark.requests ((client.execute template scope).course network world) ≠ [] := by
  rw [execute] at h ⊢
  cases hr : template.resolve (world.store.lookup scope) with
  | error e =>
    have hgoes :=
      goes_executeWith_of_unresolved client network client.retry template scope world e hr
    rw [hgoes.exec] at h
    cases h
  | ok request =>
    have hattempts := goes_executeWith client network client.retry template scope world request hr
    have hsends := client.sendsFor_execute network template scope world
    rw [execute, hr] at hsends
    refine ⟨request, rfl, hsends, ?_⟩
    generalize Mark.requests _ = wires at hsends ⊢
    cases hsends with
    | refused _ e hw =>
      have hgoes := hattempts _ _ _ (goes_attempts_of_refused client network request _ _ e world hw)
      rw [hgoes.exec] at h
      cases h
    | sent _ wire again hw ha => simp

/-- A build goes on from a stage with the variables as they were. -/
theorem Fixture.Context.sendsFor_of_request {β : Type} (context : Context) (network : Network)
    (stage : String) (template : RequestTemplate) (expect : StatusClass) (f : Response → Trial β)
    (world after : World) (b : β) (marks : List Mark)
    (h : (context.request stage template expect >>= f).Goes network world (.ok b) after marks) :
    ∃ request response wires middle back,
      template.resolve (world.store.lookup context.scope) = .ok request ∧
      context.client.SendsFor (.ok request) wires ∧ wires ≠ [] ∧ middle.store = world.store ∧
      (f response).Goes network middle (.ok b) after back ∧
      Mark.requests marks = wires ++ Mark.requests back := by
  obtain ⟨response, middle, front, back, hrequest, hrest, rfl⟩ := Trial.goes_of_bind _ _ _ _ _ _ _ h
  obtain ⟨found, answered, _, _, hexecute, -, -⟩ := Trial.goes_of_bind _ _ _ _ _ _ _ hrequest
  have hexec := (Trial.goes_of_mapError network _ _ world answered found _ hexecute).exec
  obtain ⟨request, hresolve, hsends, hne⟩ :=
    context.client.sendsFor_of_ok network template context.scope world answered found hexec
  have hcourse := context.course_request network stage template expect world
  rw [hrequest.course] at hcourse
  have hstore := context.store_of_request network stage template expect world
  rw [hrequest.exec] at hstore
  exact ⟨request, response, Mark.requests front, middle, back, hresolve, hcourse ▸ hsends,
    hcourse ▸ hne, hstore, hrest, Mark.requests_append front back⟩

namespace Ticketing
open Fixture Template Text

section Bodies

def createdEvent (name organization venue : String) : Json :=
  .obj [("age_limit", .int 18), ("door_time", .str "2059-11-13T11:00:00"),
    ("event_start", .str "2059-11-13T12:00:00"), ("name", .str name),
    ("organization_id", .str organization), ("venue_id", .str venue)]

def ticketType (capacity price : Json) : Json :=
  .obj [("capacity", capacity), ("end_date", .str saleEnd), ("limit_per_person", .int 0),
    ("name", .str "General Admission"), ("start_date", .str saleStart),
    ("ticket_pricing", .arr [.obj [("end_date", .str saleEnd), ("name", .str "Standard"),
      ("price_in_cents", price), ("start_date", .str saleStart)]]),
    ("visibility", .str "Always")]

theorem body_eventRequest (name : String) : (eventRequest name).body = some (.json
    (createdEvent name (placeholder "organization_id") (placeholder "venue_id"))) := by
  simp only [eventRequest, RequestTemplate.withJson, Json.ofMembers, Table.ofEntries,
    Table.insertAll, List.foldl_cons, List.foldl_nil]
  rfl

theorem body_ticketTypeRequest (capacity price : Json) :
    (ticketTypeRequest capacity price).body = some (.json (ticketType capacity price)) := by
  simp only [ticketTypeRequest, RequestTemplate.withJson, Json.ofMembers, Table.ofEntries,
    Table.insertAll, List.foldl_cons, List.foldl_nil]
  rfl

theorem fits_createdEvent (name organization venue : String) (depth : Nat) :
    (createdEvent name organization venue).Fits (fun _ => True) (depth + 1) := by
  refine .obj depth _ ?_ (fun _ _ => True.intro) ?_ <;>
    simp only [Table.Ordered, List.pairwise_cons, List.forall_mem_cons]
  · decide
  · exact ⟨.int _ 18 (by decide) (by decide), .str _ _, .str _ _, .str _ _, .str _ _, .str _ _,
      List.forall_mem_nil _⟩

theorem literal_ticketType (capacity price : Json) (depth : Nat) (hc : capacity.Literal depth)
    (hp : price.Literal depth) : (ticketType capacity price).Literal (depth + 3) := by
  have hstr (levels : Nat) (text : String) (ht : occurs "\x7b\x7b" text = false) :
      (Json.str text).Literal levels := .str levels text ht
  have hprice : (Json.obj [("end_date", .str saleEnd), ("name", .str "Standard"),
      ("price_in_cents", price), ("start_date", .str saleStart)]).Literal (depth + 1) := by
    refine .obj depth _ ?_ ?_ ?_ <;>
      simp only [Table.Ordered, List.pairwise_cons, List.forall_mem_cons]
    · decide
    · decide
    · exact ⟨hstr _ _ (by decide), hstr _ _ (by decide), hp, hstr _ _ (by decide),
        List.forall_mem_nil _⟩
  refine .obj (depth + 2) _ ?_ ?_ ?_ <;>
    simp only [Table.Ordered, List.pairwise_cons, List.forall_mem_cons]
  · decide
  · decide
  · exact ⟨hc.mono _ _ _ (by omega), hstr _ _ (by decide), .int _ 0 (by decide) (by decide),
      hstr _ _ (by decide), hstr _ _ (by decide),
      .arr (depth + 1) _ (List.forall_mem_singleton.mpr hprice), hstr _ _ (by decide),
      List.forall_mem_nil _⟩

def eventFront (name : String) : List Char :=
  '\x7b' :: '\x22' ::
    ("age_limit\x22:18,\x22door_time\x22:\x222059-11-13T11:00:00\x22,".toList ++
      "\x22event_start\x22:\x222059-11-13T12:00:00\x22,\x22name\x22:".toList ++
      Json.writeString name ++ ",\x22organization_id\x22:\x22".toList)

def eventMiddle : List Char := "\x22,\x22venue_id\x22:\x22".toList

theorem write_createdEvent (name organization venue : String) :
    (createdEvent name organization venue).write = eventFront name ++
      (organization.toList.flatMap Json.escapeChar ++
        (eventMiddle ++ (venue.toList.flatMap Json.escapeChar ++ ['\x22', '\x7d']))) := by
  simp only [createdEvent, Json.write, Json.writeMembers, eventFront, Json.writeString,
    List.append_assoc, List.cons_append, List.nil_append]
  rfl

theorem kept_eventFront (name : String) (h : occurs "\x7b\x7b" name = false) :
    Json.Kept (eventFront name) := by
  refine Json.kept_brace '\x22' _ (by decide) (Json.kept_append ('\x22' :: _) _ ?_ ?_)
  · exact Json.kept_append ('\x22' :: _) _ (Json.kept_of_not_mem _ (by decide +kernel))
      (Json.kept_writeString name h)
  · exact Json.kept_of_not_mem _ (by decide +kernel)

end Bodies

section Requests
variable (value? : String → Option Json) (request : ResolvedRequest)

def PlainPlaces : Prop :=
  ∀ key ∈ ["organization_id", "venue_id"], ∀ value, value? key = some value →
    ∀ c ∈ value.splice.toList, Json.Unescaped c

/-- An event is created under its name, with no more than the organization and the venue filled
in. -/
theorem body_of_event (name : String) (hn : occurs "\x7b\x7b" name = false)
    (hp : PlainPlaces value?) (h : (eventRequest name).resolve value? = .ok request) :
    ∃ organization venue, request.body = some (createdEvent name organization venue).render := by
  obtain ⟨text, htext, hs⟩ :=
    (eventRequest name).substitute_of_resolve _ value? request (body_eventRequest name) h
  have hfills := Json.fills_write value? _ text hs
  rw [write_createdEvent] at hfills
  obtain ⟨_, hfront, hbehind⟩ := kept_eventFront name hn _ _ _ hfills
  obtain ⟨organization, _, ho, rfl, hmiddle⟩ :=
    Json.exists_of_fills_hole _ "organization_id" _ _
      (isKey_of_all _ (by decide) (by decide)) hbehind
  obtain ⟨_, rfl, hlast⟩ := Json.kept_of_not_mem eventMiddle (by decide) _ _ _ hmiddle
  obtain ⟨venue, _, hv, rfl, hend⟩ :=
    Json.exists_of_fills_hole _ "venue_id" _ _ (isKey_of_all _ (by decide) (by decide)) hlast
  rw [eq_of_fills_plain _ _ _ (by decide) hend] at hfront
  refine ⟨organization.splice, venue.splice, ?_⟩
  rw [htext, Json.render, write_createdEvent,
    Json.flatMap_escapeChar _ (hp "organization_id" (by simp) organization ho),
    Json.flatMap_escapeChar _ (hp "venue_id" (by simp) venue hv), ← hfront, String.ofList_toList]

/-- The tickets of an event are made with their capacity and price as they are. -/
theorem body_of_ticketType (capacity price : Json) (depth : Nat) (hc : capacity.Literal depth)
    (hp : price.Literal depth)
    (h : (ticketTypeRequest capacity price).resolve value? = .ok request) :
    request.body = some (ticketType capacity price).render := by
  obtain ⟨text, htext, hs⟩ := (ticketTypeRequest capacity price).substitute_of_resolve _ value?
    request (body_ticketTypeRequest capacity price) h
  rw [htext, Json.eq_render_of_literal value? (depth + 3) _ text
    (literal_ticketType capacity price depth hc hp) hs]

theorem body_of_publish (h : publishRequest.resolve value? = .ok request) :
    request.body = none := by
  rw [RequestTemplate.resolve_eq] at h
  obtain ⟨path, -, h⟩ := ok_of_bind_eq_ok _ _ _ h
  obtain ⟨defaults, -, h⟩ := ok_of_bind_eq_ok _ _ _ h
  obtain ⟨headers, -, h⟩ := ok_of_bind_eq_ok _ _ _ h
  cases h
  rfl

end Requests

section Posts
variable (client : Client)

def Posts (path : String) (body : Option String) (wires : List WireRequest) : Prop :=
  ∃ headers, client.SendsFor (.ok ⟨.post, path, headers, body⟩) wires ∧ wires ≠ []

def PostsJson (path : String) (levels : Nat) (kind : Json → Prop) (wires : List WireRequest) :
    Prop :=
  ∃ text body, Posts client path (some text) wires ∧
    (∀ limit ≥ levels, Json.parseWithin? limit text = some body) ∧ kind body

theorem posts_of_resolve (value? : String → Option Json) (template : RequestTemplate)
    (request : ResolvedRequest) (path : String) (body : Option String) (wires : List WireRequest)
    (h : template.resolve value? = .ok request) (hm : template.method = .post)
    (hp : substitute template.path value? = .ok path) (hb : request.body = body)
    (hs : client.SendsFor (.ok request) wires) (hne : wires ≠ []) :
    Posts client path body wires := by
  obtain ⟨hmethod, hpath⟩ := template.path_of_resolve value? request h
  rw [hp, Except.ok.injEq] at hpath
  refine ⟨request.headers, ?_, hne⟩
  rw [← hm, ← hmethod, hpath, ← hb]
  exact hs

theorem postsJson_of_fits (path : String) (levels : Nat) (kind : Json → Prop) (body : Json)
    (wires : List WireRequest) (Named : String → Prop)
    (h : Posts client path (some body.render) wires)
    (hf : ∀ limit ≥ levels, body.Fits Named limit) (hk : kind body) :
    PostsJson client path levels kind wires :=
  ⟨body.render, body, h, fun limit hl => Json.parseWithin?_render Named limit body (hf limit hl),
    hk⟩

/-- The requests for an event, in order: it is created under a name, its tickets get a capacity and
a price, and it is published. -/
inductive MakesEvent (levels : Nat) (name capacity price : Json) : List WireRequest → Prop
  | intro (event : Json) (created priced published : List WireRequest)
      (hc : PostsJson client "/events" levels (fun body => body.pointer? "/name" = some name)
        created)
      (hp : PostsJson client (eventPath event.splice "/ticket_types") levels
        (fun body => body.pointer? "/capacity" = some capacity ∧
          body.pointer? "/ticket_pricing/0/price_in_cents" = some price) priced)
      (hu : Posts client (eventPath event.splice "/publish") none published) :
      MakesEvent levels name capacity price (created ++ priced ++ published)

end Posts

section Making
variable (context : Fixture.Context) (network : Network) (world after : World)
  (produced : Outputs) (marks : List Mark) (params : Params) (depth : Nat)

/-- A parameter, or what stands in for it. -/
theorem literal_getD (key : String) (usual : Json) (hu : usual.Literal depth)
    (h : ∀ key value, params.get? key = some value → value.Literal depth) :
    ((params.get? key).getD usual).Literal depth := by
  cases hv : params.get? key with
  | none => exact hu
  | some value => exact h key value hv

theorem occurs_eventName
    (h : ∀ key value, params.get? key = some value → value.Literal depth) :
    occurs "\x7b\x7b" (eventName params) = false := by
  rw [eventName]
  cases hv : params.get? "name" with
  | none => decide
  | some value =>
    cases h "name" value hv with
    | str _ text plain => exact plain
    | _ => exact (by decide : occurs "\x7b\x7b" defaultEventName = false)

/-- An event that is made is made with its parameters. They are in the bodies of the first two
requests, and only their answers are looked at in between. -/
theorem makesEvent_of_goes (hid : context.scope < world.store.length)
    (hl : ∀ key value, params.get? key = some value → value.Literal depth)
    (hplaces : PlainPlaces (world.store.lookup context.scope))
    (h : (buildEvent context params).Goes network world (.ok produced) after marks) :
    MakesEvent context.client (depth + 3) (.str (eventName params))
      ((params.get? "capacity").getD (.int 100)) ((params.get? "price_in_cents").getD (.int 3000))
      (Mark.requests marks) := by
  have hcapacity := literal_getD params depth "capacity" (.int 100)
    (.int _ _ (by decide) (by decide)) hl
  have hprice := literal_getD params depth "price_in_cents" (.int 3000)
    (.int _ _ (by decide) (by decide)) hl
  obtain ⟨request₁, created, wires₁, w₁, back₁, hr₁, hs₁, hne₁, hstore₁, h, hm₁⟩ :=
    context.sendsFor_of_request network _ _ _ _ world after produced marks h
  obtain ⟨event, -, h⟩ := context.goes_of_take network _ _ after produced back₁ _ _ _ _ h
  obtain ⟨request₂, priced, wires₂, w₂, back₂, hr₂, hs₂, hne₂, hstore₂, h, hm₂⟩ :=
    context.sendsFor_of_request network _ _ _ _ _ after produced back₁ h
  obtain ⟨type, -, h⟩ := context.goes_of_take network _ _ after produced back₂ _ _ _ _ h
  obtain ⟨request₃, published, wires₃, w₃, back₃, hr₃, hs₃, hne₃, -, h, hm₃⟩ :=
    context.sendsFor_of_request network _ _ _ _ _ after produced back₂ h
  obtain ⟨-, -, rfl⟩ := context.outputsIn_of_goes network _ after back₃ _ produced h
  have hseen : (w₁.store.set context.scope "event_id" event).lookup context.scope "event_id" =
      some event :=
    Store.lookup_set_self w₁.store context.scope "event_id" event (hstore₁ ▸ hid)
  have hseen' : (w₂.store.set context.scope "ticket_type_id" type).lookup context.scope "event_id" =
      some event := by
    rw [Store.lookup_set_of_ne _ _ _ _ _ _ (by decide), hstore₂]
    exact hseen
  obtain ⟨organization, venue, hbody⟩ := body_of_event _ request₁ (eventName params)
    (occurs_eventName params depth hl) hplaces hr₁
  have hcreated := posts_of_resolve context.client _ _ request₁ "/events" _ wires₁ hr₁ rfl
    (substitute_of_plain _ "/events" (by decide +kernel)) hbody hs₁ hne₁
  have hpriced := posts_of_resolve context.client _ _ request₂ _ _ wires₂ hr₂ rfl
    (substitute_of_one _ ("/events/" ++ placeholder "event_id" ++ "/ticket_types") "/events/"
      "/ticket_types" "event_id" event (by decide +kernel) hseen)
    (body_of_ticketType _ request₂ _ _ depth hcapacity hprice hr₂) hs₂ hne₂
  have hpublished := posts_of_resolve context.client _ _ request₃ _ _ wires₃ hr₃ rfl
    (substitute_of_one _ _ "/events/" "/publish" "event_id" event (by decide +kernel) hseen')
    (body_of_publish _ request₃ hr₃) hs₃ hne₃
  have hfits (limit : Nat) (hlimit : depth + 3 ≤ limit) :
      (createdEvent (eventName params) organization venue).Fits (fun _ => True) limit := by
    obtain ⟨limit, rfl⟩ := Nat.exists_eq_add_one.mpr (Nat.zero_lt_of_lt hlimit)
    exact fits_createdEvent _ organization venue limit
  have hliteral := literal_ticketType _ _ depth hcapacity hprice
  rw [hm₁, hm₂, hm₃, Mark.requests_nil, List.append_nil, ← List.append_assoc]
  exact .intro event wires₁ wires₂ wires₃
    (postsJson_of_fits _ _ _ _ _ _ _ hcreated hfits rfl)
    (postsJson_of_fits _ _ _ _ _ _ _ hpriced
      (fun limit hlimit => (hliteral.mono _ _ limit hlimit).fits) ⟨rfl, rfl⟩) hpublished

end Making

section Calls

def givenName : Option Json → Json
  | some (.str name) => .str name
  | _ => .str defaultEventName

theorem str_eventName (params : Params) :
    .str (eventName params) = givenName (params.get? "name") := by
  rw [eventName]
  rcases params.get? "name" with - | (_ | _ | _ | _ | _ | _ | _) <;> rfl

/-- All that is handed down to the event of a cart is its name. -/
theorem get?_eventCall (params : Params) (key : String) :
    (eventCall params).params.get? key = if "name" = key then params.get? "event" else none := by
  rw [eventCall]
  cases params.get? "event" <;> simp [Table.get?]

variable (registry : Registry) (client : Client) (caller : ScopeId) (network : Network)
  (world after : World)

/-- What needs nothing is planned alone. -/
theorem plan_of_independent (call : Call) (fixture : Fixture)
    (hf : registry.get? call.name = some fixture) (hd : fixture.dependencies call.params = []) :
    registry.plan [call] = .ok [call] := by
  have hget : registry.get call.name = .ok fixture := registry.get_of_get? _ fixture hf
  have hvisit : registry.visit 32 [] [] call = .ok [call] := by
    rw [Registry.visit, if_neg (by simp), if_neg (by simp), hget]
    show List.foldlM (registry.visit 31 [call]) [] (fixture.dependencies call.params) >>= _ = _
    rw [hd]
    rfl
  rw [Registry.plan, List.foldlM_cons, Registry.depthLimit, hvisit]
  rfl

/-- A call that goes well builds its plan, and sends nothing else. -/
theorem goes_of_buildCall (call : Call) (plan : List Call) (outputs : Outputs)
    (hp : registry.plan [call] = .ok plan)
    (h : (buildCall registry client caller call).exec network world = (.ok outputs, after)) :
    ∃ built reached, (buildRest registry client caller [] plan).Goes network world (.ok built)
      reached ((buildCall registry client caller call).course network world) := by
  obtain ⟨results, middle, front, back, hall, ⟨-, rfl⟩, hmarks⟩ :=
    Trial.goes_of_bind network _ _ _ _ _ _ ⟨h, rfl⟩
  rw [Trial.course_ofExcept, List.append_nil] at hmarks
  obtain ⟨found, built, reached, hfound, hrest, -, -⟩ :=
    goes_of_buildAll registry client caller network world middle front _ results hall
  cases hp.symm.trans hfound
  refine ⟨built, reached, ?_⟩
  rw [← hmarks] at hrest
  exact hrest

/-- A plan that begins with an event makes it with what the call gives. -/
theorem makesEvent_of_buildRest (params : Params) (depth : Nat) (rest : List Call) (built : Built)
    (marks : List Mark) (he : registry.get? "create_event" = some event)
    (hl : ∀ key value, params.get? key = some value → value.Literal depth)
    (hplaces : PlainPlaces fun key =>
      ((Table.ofEntries params).get? key).or (world.store.lookup caller key))
    (h : (buildRest registry client caller [] (⟨"create_event", params⟩ :: rest)).Goes network world
      (.ok built) after marks) :
    ∃ front made middle back, marks = front ++ back ∧
      MakesEvent client (depth + 3) (givenName (params.get? "name"))
        ((params.get? "capacity").getD (.int 100)) ((params.get? "price_in_cents").getD (.int 3000))
        (Mark.requests front) ∧
      (buildRest registry client caller made rest).Goes network middle (.ok built) after back := by
  obtain ⟨_, inherited, made, middle, front, back, hf, hi, hevent, hrest, hmarks⟩ :=
    goes_of_buildRest_cons registry client caller network world after marks [] built _ _ h
  cases he.symm.trans hf
  obtain ⟨produced, hbuild, -⟩ := goes_of_buildOne client caller network world middle front event _
    inherited made hevent
  have hseen (key : String) := lookup_openScope caller _ _ inherited world event hi key
  rw [← str_eventName]
  refine ⟨front, _, middle, back, hmarks, ?_, hrest⟩
  refine makesEvent_of_goes _ network _ middle produced front params depth
    (lt_openScope event _ inherited caller world) hl ?_ hbuild
  intro key hk value hv
  exact hplaces key hk value ((hseen key).symm.trans hv)

end Calls

/-- An event is created under the name that is given for it, if that is a text, and its tickets have
the capacity and the price that are given for them, whatever these are. Only what is not given is
replaced by the usual value, and a name that is no text. The event of a paid cart gets its name
alike, and nothing else. -/
theorem event_is_made_with_parameters (registry : Registry) (client : Client) (caller : ScopeId)
    (network : Network) (world : World) (params : Params) (depth : Nat)
    (he : registry.get? "create_event" = some event)
    (hc : registry.get? "create_paid_cart" = some paidCart)
    (hl : ∀ key value, params.get? key = some value → value.Literal depth) :
    (∀ outputs after,
      (buildCall registry client caller ⟨"create_event", params⟩).exec network world =
        (.ok outputs, after) →
      (PlainPlaces fun key =>
        ((Table.ofEntries params).get? key).or (world.store.lookup caller key)) →
      MakesEvent client (depth + 3) (givenName (params.get? "name"))
        ((params.get? "capacity").getD (.int 100)) ((params.get? "price_in_cents").getD (.int 3000))
        (Mark.requests
          ((buildCall registry client caller ⟨"create_event", params⟩).course network world))) ∧
    ∀ outputs after,
      (buildCall registry client caller (cartCall params)).exec network world =
        (.ok outputs, after) →
      PlainPlaces (world.store.lookup caller) →
      ∃ making rest,
        MakesEvent client (depth + 3) (givenName (params.get? "event")) (.int 100) (.int 3000)
          making ∧
        Mark.requests ((buildCall registry client caller (cartCall params)).course network world) =
          making ++ rest := by
  constructor
  · intro outputs after h hplaces
    have hplan := plan_of_independent registry ⟨"create_event", params⟩ event he rfl
    obtain ⟨built, reached, hgoes⟩ :=
      goes_of_buildCall registry client caller network world after _ _ outputs hplan h
    obtain ⟨front, made, middle, back, hmarks, hmakes, ⟨-, hnone⟩⟩ :=
      makesEvent_of_buildRest registry client caller network world reached params depth [] built _
        he hl hplaces hgoes
    have hback : back = [] := hnone.symm
    rw [hmarks, hback, List.append_nil]
    exact hmakes
  · intro outputs after h hplaces
    obtain ⟨built, reached, hgoes⟩ := goes_of_buildCall registry client caller network world after
      _ _ outputs (plan_cartCall params registry he hc) h
    have hname (key : String) := get?_eventCall params key
    have hgiven (key : String) (value : Json)
        (hv : (eventCall params).params.get? key = some value) : value.Literal depth := by
      rw [hname] at hv
      split_ifs at hv
      exact hl "event" value hv
    have hunset (key : String) (hk : key ≠ "name") :
        (Table.ofEntries (eventCall params).params).get? key = none := by
      rw [← Option.not_isSome_iff_eq_none, Table.isSome_get?_ofEntries, Table.contains, hname,
        if_neg hk.symm]
      exact Bool.false_ne_true
    have hseen : PlainPlaces fun key =>
        ((Table.ofEntries (eventCall params).params).get? key).or
          (world.store.lookup caller key) := by
      intro key hk value hv
      have hne : key ≠ "name" := by
        rintro rfl
        exact absurd hk (by decide)
      exact hplaces key hk value (by simpa only [hunset key hne, Option.none_or] using hv)
    obtain ⟨front, made, middle, back, hmarks, hmakes, -⟩ := makesEvent_of_buildRest registry client
      caller network world reached (eventCall params).params depth _ built _ he hgiven hseen hgoes
    rw [hname, hname, hname] at hmakes
    refine ⟨Mark.requests front, Mark.requests back, hmakes, ?_⟩
    rw [hmarks, Mark.requests_append]

def asked : Params := [("capacity", .int 250), ("event", .str "Gala"), ("name", .int 2059)]

def asking (name : String) : Trial Outputs :=
  buildCall fixtures (.new "http://api.test" 30000) 0 ⟨name, asked⟩

theorem asking_served : ∀ name ∈ ["create_event", "create_paid_cart"],
    ((asking name).exec boxOffice patron).1.toOption.isSome = true := by
  simp only [List.forall_mem_cons, List.not_mem_nil, false_imp_iff, implies_true, and_true]
  delta asking
  simp only [fixtures, event, paidCart]
  delta buildEvent buildPaidCart
  -- The bodies are read from their characters and lines, so that no long text is taken apart.
  simp only [Context.request, Client.execute, Client.executeWith, RequestTemplate.resolveIn,
    RequestTemplate.resolve, eventRequest, ticketTypeRequest, checkoutRequest, post,
    RequestTemplate.new, RequestTemplate.withAuth, RequestTemplate.withJson,
    RequestTemplate.withText, BodyTemplate.source, substitute_render, substitute_lines]
  decide +kernel

/-- The number is not looked at, and the event of the cart gets its name. -/
theorem event_is_made_with_parameters_gala :
    MakesEvent (.new "http://api.test" 30000) 3 (.str "Conformance event") (.int 250) (.int 3000)
      (Mark.requests ((asking "create_event").course boxOffice patron)) ∧
    ∃ making rest, MakesEvent (.new "http://api.test" 30000) 3 (.str "Gala") (.int 100) (.int 3000)
        making ∧
      Mark.requests ((asking "create_paid_cart").course boxOffice patron) = making ++ rest := by
  have hserved (name : String) (hn : name ∈ ["create_event", "create_paid_cart"]) :
      ∃ outputs after, (asking name).exec boxOffice patron = (.ok outputs, after) := by
    have hsome := asking_served name hn
    rcases h : (asking name).exec boxOffice patron with ⟨outcome, after⟩
    rw [h] at hsome
    cases outcome with
    | error e => cases hsome
    | ok outputs => exact ⟨outputs, after, rfl⟩
  have hliteral (key : String) (value : Json) (hv : asked.get? key = some value) :
      value.Literal 0 := by
    have hordered : Table.Ordered asked := by unfold Table.Ordered; decide
    have hm := (Table.get?_eq_some_iff asked key value hordered).mp hv
    simp only [asked, List.mem_cons, Prod.mk.injEq, List.not_mem_nil, or_false] at hm
    obtain ⟨-, rfl⟩ | ⟨-, rfl⟩ | ⟨-, rfl⟩ := hm
    · exact .int _ 250 (by decide) (by decide)
    · exact .str _ "Gala" (by decide)
    · exact .int _ 2059 (by decide) (by decide)
  have hplaces (sees : String → Option Json)
      (ho : sees "organization_id" = some (.str "organization_id"))
      (hv : sees "venue_id" = some (.str "venue_id")) : PlainPlaces sees := by
    simp only [PlainPlaces, List.forall_mem_cons, List.not_mem_nil, false_imp_iff, implies_true,
      and_true, ho, hv]
    constructor <;>
      · rintro value ⟨⟩
        exact Json.unescaped_of_all _ (by decide +kernel)
  obtain ⟨hmade, hsold⟩ := event_is_made_with_parameters fixtures (.new "http://api.test" 30000) 0
    boxOffice patron asked 0 rfl rfl hliteral
  obtain ⟨outputs, after, h⟩ := hserved "create_event" (by simp)
  obtain ⟨outputs', after', h'⟩ := hserved "create_paid_cart" (by simp)
  exact ⟨hmade outputs after h (hplaces _ rfl rfl), hsold outputs' after' h' (hplaces _ rfl rfl)⟩

end Ticketing
end ApiTrial
