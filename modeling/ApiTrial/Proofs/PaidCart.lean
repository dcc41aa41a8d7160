import ApiTrial.Proofs.TicketingCourse

/-! A paid cart from its call to what the caller comes to see. Its plan is the event and the cart.
The cart is built in a scope of its own, which sees what was handed down of the event, and both are
written to the caller's scope when both are built. -/
namespace ApiTrial.Ticketing
open Fixture

def cartCall (params : Params) : Call := ⟨"create_paid_cart", params⟩

section Calls
variable (params : Params)

/-- A paid cart and its event are two builds. -/
theorem identity_cartCall_ne : (cartCall params).identity ≠ (eventCall params).identity := by
  have hcart : paidCart.name.toList.getLast? ≠ some '\x7d' := by decide +kernel
  have hevent : event.name.toList.getLast? ≠ some '\x7d' := by decide +kernel
  rw [Ne, (cartCall params).identity_eq_iff_of_plain (eventCall params) hcart hevent]
  intro hsame
  have hnames : paidCart.name = event.name := hsame.name
  exact absurd hnames (by decide +kernel)

theorem outputs?_eventCall (made : Outputs) :
    Built.outputs? [(eventCall params, made)] (eventCall params) = some made := by
  rw [Built.outputs?, List.find?_cons_of_pos (by simp)]
  rfl

/-- What a cart has produced is found behind what its event has. -/
theorem outputs?_cartCall (made paid : Outputs) :
    Built.outputs? [(eventCall params, made), (cartCall params, paid)] (cartCall params) =
      some paid := by
  have hne := (identity_cartCall_ne params).symm
  rw [Built.outputs?, List.find?_cons_of_neg (by simpa using hne),
    List.find?_cons_of_pos (by simp)]
  rfl

/-- What is handed down to a cart is what was made of its event. -/
theorem handed?_cartCall (making : EventTrail) (key : String) :
    Built.handed? [(eventCall params, making.outputs)] (paidCart.dependencies params) key =
      Table.get? key making.outputs := by
  show Built.handed? _ [eventCall params] key = _
  rw [Built.handed?, List.reverse_singleton, List.findSome?_singleton, outputs?_eventCall,
    Option.bind_some, making.ofEntries_outputs]

variable (registry : Registry) (he : registry.get? "create_event" = some event)
  (hc : registry.get? "create_paid_cart" = some paidCart)
include he hc

/-- A cart is planned behind its event. -/
theorem plan_cartCall :
    registry.plan [cartCall params] = .ok [eventCall params, cartCall params] := by
  have hne := identity_cartCall_ne params
  have hgetEvent : registry.get (eventCall params).name = .ok event :=
    registry.get_of_get? _ event he
  have hgetCart : registry.get (cartCall params).name = .ok paidCart :=
    registry.get_of_get? _ paidCart hc
  have hevent : registry.visit 31 [cartCall params] [] (eventCall params) =
      .ok [eventCall params] := by
    rw [Registry.visit, if_neg (by simp), if_neg (by simpa using hne), hgetEvent]
    rfl
  have hcart : registry.visit 32 [] [] (cartCall params) =
      .ok [eventCall params, cartCall params] := by
    rw [Registry.visit, if_neg (by simp), if_neg (by simp), hgetCart]
    show List.foldlM (registry.visit 31 [cartCall params]) [] [eventCall params] >>= _ = _
    rw [List.foldlM_cons, hevent]
    rfl
  rw [Registry.plan, List.foldlM_cons, Registry.depthLimit, hcart]
  rfl

end Calls

theorem confined_fixtures : ∀ fixture ∈ fixtures, fixture.Confined := fun fixture hf =>
  confined_of_contained fixture
    (Registry.contained_of_isStandard fixtures (fun _ hf => Or.inl hf) fixture hf)

section Run
variable (registry : Registry) (client : Client) (caller : ScopeId) (network : Network)
  (world after : World) (marks : List Mark) (params : Params)

/-- An event that is built for a cart. -/
theorem goes_of_eventCall (made : Outputs)
    (h : (buildOne client caller event (eventCall params) []).Goes network world (.ok made) after
      marks)
    (hm : Mark.Heard marks) :
    ∃ trail : EventTrail, trail.Threaded ∧ made = trail.outputs ∧
      client.GetsAll network world.sent trail.exchanges ∧
      after.sent = world.sent ++ trail.exchanges.map Prod.fst ∧
      Mark.requests marks = trail.exchanges.map Prod.fst := by
  obtain ⟨produced, hbuild, hdeclared⟩ := goes_of_buildOne client caller network world after marks
    event (eventCall params) [] made h
  obtain ⟨trail, hthreaded, rfl, hgets, hsent, hrequests⟩ := goes_buildEvent _ network _ after
    produced marks (lt_openScope event (eventCall params) [] caller world) _ hbuild hm
  exact ⟨trail, hthreaded, (Except.ok.inj hdeclared).symm, hgets, hsent, hrequests⟩

variable (hp : ∀ key ∈ Table.keys params, key = "event" ∨ key = "quantity")
include hp

/-- A cart that is built behind its event. -/
theorem goes_of_cartCall (making : EventTrail) (inherited : List Outputs) (made : Outputs)
    (hi : paidCart.inherited (cartCall params) [(eventCall params, making.outputs)] =
      .ok inherited)
    (h : (buildOne client caller paidCart (cartCall params) inherited).Goes network world (.ok made)
      after marks)
    (hm : Mark.Heard marks) :
    ∃ trail : CartTrail,
      trail.Threaded making.type (((Table.ofEntries params).get? "quantity").getD (.int 1))
        ((world.store.lookup caller "card_token").getD (.str "tok_visa")) ∧
      made = trail.outputs making ∧ client.GetsAll network world.sent trail.exchanges ∧
      Mark.requests marks = trail.exchanges.map Prod.fst := by
  obtain ⟨produced, hbuild, hdeclared⟩ := goes_of_buildOne client caller network world after marks
    paidCart (cartCall params) inherited made h
  have hscope := lt_openScope paidCart (cartCall params) inherited caller world
  have hopened (key : String) := lookup_openScope caller _ _ inherited world paidCart hi key
  have hsent : (paidCart.openScope (cartCall params) inherited caller world).2.sent = world.sent :=
    rfl
  generalize paidCart.openScope (cartCall params) inherited caller world = opened at *
  have hsees (key : String) : opened.2.store.lookup opened.1 key =
      ((Table.ofEntries params).get? key).or
        ((Table.get? key making.outputs).or (world.store.lookup caller key)) := by
    rw [hopened, ← handed?_cartCall params making key]
    rfl
  have hunset (key : String) (he : key ≠ "event") (hq : key ≠ "quantity") :
      opened.2.store.lookup opened.1 key =
        (Table.get? key making.outputs).or (world.store.lookup caller key) := by
    have hnone : (Table.ofEntries params).get? key = none := by
      rw [← Option.not_isSome_iff_eq_none, Table.get?_ofEntries_isSome_iff]
      exact fun hk => (hp key hk).elim he hq
    rw [hsees, hnone, Option.none_or]
  have hevent : opened.2.store.lookup opened.1 "event_id" = some making.event :=
    hunset "event_id" (by decide) (by decide)
  have htype : opened.2.store.lookup opened.1 "ticket_type_id" = some making.type :=
    hunset "ticket_type_id" (by decide) (by decide)
  have hcard : opened.2.store.lookup opened.1 "card_token" =
      world.store.lookup caller "card_token" :=
    hunset "card_token" (by decide) (by decide)
  have hquantity : (if params.contains "quantity" = true
      then opened.2.store.lookup opened.1 "quantity" else some (.int 1)) =
        some (((Table.ofEntries params).get? "quantity").getD (.int 1)) := by
    rw [← Table.isSome_get?_ofEntries, hsees]
    cases (Table.ofEntries params).get? "quantity" <;> rfl
  obtain ⟨trail, hthreaded, rfl, hgets, hrequests⟩ := goes_buildPaidCart _ network _ after produced
    marks hscope params making _ hevent htype hquantity hbuild hm
  rw [hcard] at hthreaded
  rw [hsent] at hgets
  exact ⟨trail, hthreaded, (Except.ok.inj hdeclared).symm, hgets, hrequests⟩

variable (he : registry.get? "create_event" = some event)
  (hc : registry.get? "create_paid_cart" = some paidCart) (hs : caller < world.store.length)
include he hc hs

/-- The plan of a cart goes well in two builds. -/
theorem goes_of_plan (built : Built)
    (h : (buildRest registry client caller [] [eventCall params, cartCall params]).Goes network
      world (.ok built) after marks)
    (hm : Mark.Heard marks) :
    ∃ (making : EventTrail) (paying : CartTrail),
      built = [(eventCall params, making.outputs), (cartCall params, paying.outputs making)] ∧
      making.Threaded ∧
      paying.Threaded making.type (((Table.ofEntries params).get? "quantity").getD (.int 1))
        ((world.store.lookup caller "card_token").getD (.str "tok_visa")) ∧
      client.GetsAll network world.sent (making.exchanges ++ paying.exchanges) ∧
      Mark.requests marks = (making.exchanges ++ paying.exchanges).map Prod.fst ∧
      world.GrowsTo after := by
  obtain ⟨_, _, made, middle, front, back, hf, hi, hevent, hrest, rfl⟩ :=
    goes_of_buildRest_cons registry client caller network world after marks [] built _ _ h
  cases he.symm.trans hf
  cases hi
  obtain ⟨hm₁, hm⟩ := (Mark.heard_append front back).mp hm
  obtain ⟨making, hmaking, rfl, hgets₁, hsent, hrequests₁⟩ :=
    goes_of_eventCall client caller network world middle front params made hevent hm₁
  have hgrows₁ := growsTo_of_buildOne client caller network _ _ _ world middle
    (confined_fixtures event List.mem_cons_self) _ hevent.exec
  obtain ⟨_, inherited, made, paid, front₂, back₂, hf, hi, hcart, hnone, rfl⟩ :=
    goes_of_buildRest_cons registry client caller network middle after back _ built _ _ hrest
  cases hc.symm.trans hf
  obtain ⟨hm₂, -⟩ := (Mark.heard_append front₂ back₂).mp hm
  obtain ⟨paying, hpaying, rfl, hgets₂, hrequests₂⟩ := goes_of_cartCall client caller network middle
    paid front₂ params hp making inherited made hi hcart hm₂
  have hgrows₂ := growsTo_of_buildOne client caller network _ _ _ middle paid
    (confined_fixtures paidCart (List.mem_cons_of_mem _ List.mem_cons_self)) _ hcart.exec
  rw [world.lookup_of_growsTo middle hgrows₁ caller _ hs] at hpaying
  obtain ⟨hdone, rfl⟩ := hnone
  cases hdone
  refine ⟨making, paying, rfl, hmaking, hpaying, ?_, ?_, ?_⟩
  · exact client.getsAll_append network _ _ _ hgets₁ (hsent ▸ hgets₂)
  · rw [Mark.requests_append, Mark.requests_append, hrequests₁, hrequests₂, List.map_append]
    exact congrArg _ (List.append_nil _)
  · exact world.growsTo_trans middle _ hgrows₁ hgrows₂

/-- A paid cart that is made, with no attempt unanswered, took five requests: its event is created,
priced and published, a cart is filled with tickets of the type of that event and paid with what it
costs. Each response is what the network has behind all that was sent before. The caller comes to
see the event, the ticket type, the cart and the order, and everything else as it was. -/
theorem paidCart_is_threaded (outputs : Outputs)
    (h : (buildCall registry client caller (cartCall params)).exec network world =
      (.ok outputs, after))
    (hm : Mark.Heard
      ((buildCall registry client caller (cartCall params)).course network world)) :
    ∃ (making : EventTrail) (paying : CartTrail),
      Mark.requests
          ((buildCall registry client caller (cartCall params)).course network world) =
        (making.exchanges ++ paying.exchanges).map Prod.fst ∧
      client.GetsAll network world.sent (making.exchanges ++ paying.exchanges) ∧
      making.Threaded ∧
      paying.Threaded making.type (((Table.ofEntries params).get? "quantity").getD (.int 1))
        ((world.store.lookup caller "card_token").getD (.str "tok_visa")) ∧
      outputs = paying.outputs making ∧
      ∀ key, after.store.lookup caller key =
        (Table.get? key (paying.outputs making)).or (world.store.lookup caller key) := by
  generalize hcourse : (buildCall registry client caller (cartCall params)).course network world =
    marks at hm ⊢
  obtain ⟨results, middle, front, back, hall, ⟨hlast, rfl⟩, rfl⟩ :=
    Trial.goes_of_bind network _ _ _ _ _ _ ⟨h, hcourse⟩
  rw [Trial.course_ofExcept, List.append_nil] at hm ⊢
  rw [Trial.exec_ofExcept, Prod.mk.injEq] at hlast
  obtain ⟨hlast, rfl⟩ := hlast
  obtain ⟨plan, built, reached, hplan, hrest, hrequested, rfl⟩ :=
    goes_of_buildAll registry client caller network world middle front _ results hall
  rw [plan_cartCall params registry he hc, Except.ok.injEq] at hplan
  subst hplan
  obtain ⟨making, paying, rfl, hmaking, hpaying, hgets, hrequests, hgrows⟩ := goes_of_plan registry
    client caller network world reached front params hp he hc hs built hrest hm
  refine ⟨making, paying, hrequests, hgets, hmaking, hpaying, ?_, ?_⟩
  · have hresults : requested [cartCall params] [(eventCall params, making.outputs),
        (cartCall params, paying.outputs making)] = .ok [paying.outputs making] := by
      rw [requested, List.mapM_cons,
        outputs?_cartCall params making.outputs (paying.outputs making)]
      rfl
    cases hresults.symm.trans hrequested
    exact (Except.ok.inj hlast).symm
  · intro key
    rw [lookup_commit caller _ world reached key hgrows hs]
    show ((Table.ofEntries (making.outputs ++ paying.outputs making)).get? key).or _ = _
    rw [paying.ofEntries_append making]

end Run

def boxOffice : Network := fun sent _ =>
  let answers := ["\x7b\x22id\x22: 7\x7d", "\x7b\x22id\x22: 8\x7d", "",
    "\x7b\x22id\x22: 9, \x22total_in_cents\x22: 6000\x7d", "\x7b\x22id\x22: 10\x7d"]
  .answered 0 ⟨200, [], (answers.getD sent.length "").toUTF8.data.toList⟩

def patron : World :=
  ⟨[⟨"root", none, ["org_member_token", "organization_id", "user_token", "venue_id"].map
    fun key => (key, some (.str key))⟩], [], []⟩

def purchase : Trial Outputs :=
  buildCall fixtures (.new "http://api.test" 30000) 0 (cartCall [("quantity", .int 2)])

theorem purchase_served :
    (purchase.exec boxOffice patron).1.toOption.map
      (List.map fun entry => (entry.1, entry.2.splice)) =
      some [("cart_id", "9"), ("event_id", "7"), ("order_id", "10"), ("ticket_type_id", "8")] ∧
    Mark.Heard (purchase.course boxOffice patron) := by
  delta purchase
  simp only [fixtures, event, paidCart]
  delta buildEvent buildPaidCart
  simp only [Context.request, Client.execute, Client.executeWith, RequestTemplate.resolveIn,
    RequestTemplate.resolve, eventRequest, ticketTypeRequest, checkoutRequest, post,
    RequestTemplate.new, RequestTemplate.withAuth, RequestTemplate.withJson,
    RequestTemplate.withText, BodyTemplate.source, Template.substitute_render,
    Template.substitute_lines]
  decide +kernel

/-- The cart holds tickets of the type that the second answer names, and the caller comes to see the
order of the last. -/
theorem paidCart_is_threaded_boxOffice :
    ∃ (making : EventTrail) (paying : CartTrail) (after : World),
      purchase.exec boxOffice patron = (.ok (paying.outputs making), after) ∧
      target making.priced.2 = (.post, "/events/7/ticket_types") ∧
      paying.filled.2.request.body = some (cartText "8" "2") ∧
      (after.store.lookup 0 "order_id").map Json.splice = some "10" := by
  obtain ⟨hserved, hheard⟩ := purchase_served
  rcases h : purchase.exec boxOffice patron with ⟨outcome, after⟩
  rw [h] at hserved
  cases outcome with
  | error e => cases hserved
  | ok outputs =>
    obtain ⟨making, paying, -, -, hmaking, hpaying, rfl, hseen⟩ := paidCart_is_threaded fixtures
      (.new "http://api.test" 30000) 0 boxOffice patron after [("quantity", .int 2)] (by decide)
      rfl rfl (by decide) outputs h hheard
    have houtputs := Option.some.inj hserved
    simp only [CartTrail.outputs, List.map_cons, List.map_nil, List.cons.injEq, Prod.mk.injEq,
      true_and, and_true] at houtputs
    obtain ⟨-, hevent, horder, htype⟩ := houtputs
    refine ⟨making, paying, after, rfl, ?_, ?_, ?_⟩
    · rw [hmaking.price, hevent]
      rfl
    · rw [hpaying.tickets, htype]
      rfl
    · rw [hseen, ← horder]
      rfl

end ApiTrial.Ticketing
