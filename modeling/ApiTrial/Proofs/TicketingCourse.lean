import ApiTrial.Proofs.RecipeScoping
import ApiTrial.Proofs.RequestAnswered

/-! How a paid cart is put together. Five requests are sent for it, and every later one is filled in
with what earlier ones were answered. -/
namespace ApiTrial

namespace Ticketing
open Fixture Template

def target (response : Response) : Method × String :=
  (response.request.method, response.request.path)

def eventPath (event part : String) : String := "/events/" ++ event ++ part

def cartText (type quantity : String) : String :=
  "\x7b\x22items\x22: [\x7b\x22ticket_type_id\x22: \x22" ++ type ++
    "\x22, \x22quantity\x22: " ++ quantity ++ "\x7d]\x7d"

def checkoutMethod : String :=
  ",\n    \x22method\x22: \x7b\n        \x22type\x22: \x22Card\x22,\n" ++
    "        \x22provider\x22: \x22stripe\x22,\n        \x22token\x22: \x22"

def checkoutEnd : String :=
  "\x22,\n        \x22save_payment_method\x22: false,\n" ++
    "        \x22set_default\x22: false\n    \x7d\n\x7d"

def checkoutText (total token : String) : String :=
  "\x7b\n    \x22amount\x22: " ++ total ++ checkoutMethod ++ token ++ checkoutEnd

section Texts
variable (value? : String → Option Json)

/-- The target of a request that is filled in. -/
theorem target_of_resolve (template : RequestTemplate) (response : Response) (path : String)
    (h : template.resolve value? = .ok response.request) (hm : template.method = .post)
    (hp : substitute template.path value? = .ok path) : target response = (.post, path) := by
  obtain ⟨hmethod, hpath⟩ := template.path_of_resolve value? response.request h
  rw [hp, Except.ok.injEq] at hpath
  rw [target, hmethod, hm, hpath]

theorem body_of_cart (request : ResolvedRequest) (type quantity : Json)
    (h : cartRequest.resolve value? = .ok request) (ht : value? "ticket_type_id" = some type)
    (hq : value? "quantity" = some quantity) :
    request.body = some (cartText type.splice quantity.splice) := by
  obtain ⟨text, htext, hs⟩ := cartRequest.substitute_of_resolve _ value? request rfl h
  have hfilled := hs.symm.trans (substitute_of_two value? _ _
    "\x7b\x22items\x22: [\x7b\x22ticket_type_id\x22: \x22" "\x22, \x22quantity\x22: " "\x7d]\x7d"
    "ticket_type_id" "quantity" type quantity rfl (by decide +kernel) ht hq)
  exact htext.trans (congrArg some (Except.ok.inj hfilled))

theorem body_of_checkout (request : ResolvedRequest) (total token : Json)
    (h : checkoutRequest.resolve value? = .ok request)
    (ht : value? "cart_total_in_cents" = some total) (hc : value? "card_token" = some token) :
    request.body = some (checkoutText total.splice token.splice) := by
  obtain ⟨text, htext, hs⟩ := checkoutRequest.substitute_of_resolve _ value? request rfl h
  have hfilled := hs.symm.trans (substitute_of_two value? _ _ "\x7b\n    \x22amount\x22: "
    checkoutMethod checkoutEnd "cart_total_in_cents" "card_token" total token
    String.toList_intercalate (by decide +kernel) ht hc)
  exact htext.trans (congrArg some (Except.ok.inj hfilled))

end Texts

structure EventTrail where
  created : WireRequest × Response
  priced : WireRequest × Response
  published : WireRequest × Response
  event : Json
  type : Json

/-- How a cart is paid: the exchanges of its steps, the cart and its price as the first names them,
and the order that the second does. -/
structure CartTrail where
  filled : WireRequest × Response
  paid : WireRequest × Response
  cart : Json
  total : Json
  order : Json

namespace EventTrail
variable (trail : EventTrail)

def exchanges : List (WireRequest × Response) := [trail.created, trail.priced, trail.published]

def outputs : Outputs := [("event_id", trail.event), ("ticket_type_id", trail.type)]

theorem ofEntries_outputs : Table.ofEntries trail.outputs = trail.outputs := by
  simp only [Table.ofEntries, Table.insertAll, outputs, List.foldl_cons, List.foldl_nil]
  rfl

/-- The event that is priced and published is the one that was created. -/
structure Threaded : Prop where
  create : target trail.created.2 = (.post, "/events")
  event : trail.created.2.capture? "/id" = some trail.event
  price : target trail.priced.2 = (.post, eventPath trail.event.splice "/ticket_types")
  type : trail.priced.2.capture? "/id" = some trail.type
  publish : target trail.published.2 = (.post, eventPath trail.event.splice "/publish")

end EventTrail

namespace CartTrail
variable (trail : CartTrail)

def exchanges : List (WireRequest × Response) := [trail.filled, trail.paid]

def outputs (making : EventTrail) : Outputs :=
  [("cart_id", trail.cart), ("event_id", making.event), ("order_id", trail.order),
    ("ticket_type_id", making.type)]

/-- What a cart is written with replaces what its event is. -/
theorem ofEntries_append (making : EventTrail) :
    Table.ofEntries (making.outputs ++ trail.outputs making) = trail.outputs making := by
  simp only [Table.ofEntries, Table.insertAll, outputs, EventTrail.outputs, List.foldl_append,
    List.foldl_cons, List.foldl_nil]
  rfl

/-- The cart holds tickets of a type, and what is paid is what it costs. -/
structure Threaded (type quantity token : Json) : Prop where
  fill : target trail.filled.2 = (.post, "/cart")
  tickets : trail.filled.2.request.body = some (cartText type.splice quantity.splice)
  cart : trail.filled.2.capture? "/id" = some trail.cart
  total : trail.filled.2.capture? "/total_in_cents" = some trail.total
  pay : target trail.paid.2 = (.post, "/cart/checkout")
  amount : trail.paid.2.request.body = some (checkoutText trail.total.splice token.splice)
  order : trail.paid.2.capture? "/id" = some trail.order

end CartTrail

section Builds
variable (context : Fixture.Context) (network : Network) (world after : World)
  (produced : Outputs) (marks : List Mark) (hid : context.scope < world.store.length)
include hid

/-- An event that is made took three requests, and the second and the third go to the event that the
first has created. -/
theorem goes_buildEvent (params : Fixture.Params)
    (h : (buildEvent context params).Goes network world (.ok produced) after marks)
    (hm : Mark.Heard marks) :
    ∃ trail : EventTrail, trail.Threaded ∧ produced = trail.outputs ∧
      context.client.GetsAll network world.sent trail.exchanges ∧
      after.sent = world.sent ++ trail.exchanges.map Prod.fst ∧
      Mark.requests marks = trail.exchanges.map Prod.fst := by
  obtain ⟨created, w₁, back₁, hr₁, hg₁, h, hm₁, hsent₁⟩ :=
    context.goes_of_request network _ world after produced marks _ _ _ h hm
  obtain ⟨event, hevent, h⟩ := context.goes_of_take network _ _ after produced back₁ _ _ _ _ h
  obtain ⟨priced, w₂, back₂, hr₂, hg₂, h, hm₂, hsent₂⟩ :=
    context.goes_of_request network _ _ after produced back₁ _ _ _ h hm₁
  obtain ⟨type, htype, h⟩ := context.goes_of_take network _ _ after produced back₂ _ _ _ _ h
  obtain ⟨published, w₃, back₃, hr₃, hg₃, h, hm₃, hsent₃⟩ :=
    context.goes_of_request network _ _ after produced back₂ _ _ _ h hm₂
  obtain ⟨houtputs, rfl, rfl⟩ := context.outputsIn_of_goes network _ after back₃ _ produced h
  have hmade (key : String) := Store.lookup_set world.store context.scope "event_id" event hid key
  have hpriced (key : String) := Store.lookup_set (world.store.set context.scope "event_id" event)
    context.scope "ticket_type_id" type (by rwa [Store.length_set]) key
  refine ⟨⟨(w₁, created), (w₂, priced), (w₃, published), event, type⟩, ?_, ?_, ?_, ?_, ?_⟩
  · constructor
    case create =>
      exact target_of_resolve _ _ created "/events" hr₁ rfl
        (substitute_of_plain _ "/events" (by decide +kernel))
    case event => exact hevent
    case price =>
      exact target_of_resolve _ _ priced _ hr₂ rfl
        (substitute_of_one _ ("/events/" ++ placeholder "event_id" ++ "/ticket_types") "/events/"
          "/ticket_types" "event_id" event (by decide +kernel) (hmade "event_id"))
    case type => exact htype
    case publish =>
      exact target_of_resolve _ _ published _ hr₃ rfl
        (substitute_of_one _ _ "/events/" "/publish" "event_id" event (by decide +kernel)
          ((hpriced "event_id").trans (hmade "event_id")))
  · have hseen := context.outputsIn_of_seen
      ((world.store.set context.scope "event_id" event).set context.scope "ticket_type_id" type)
      [("event_id", event), ("ticket_type_id", type)] (by simp [hpriced, hmade])
    refine (Except.ok.inj (houtputs.symm.trans hseen)).trans ?_
    simp only [List.foldr_cons, List.foldr_nil]
    rfl
  · exact .cons _ _ _ _ hg₁ (.cons _ _ _ _ hg₂ (.cons _ _ _ _ hg₃ (.nil _)))
  · exact (List.append_assoc _ _ _).trans (List.append_assoc _ _ _)
  · rw [hsent₁, hsent₂, hsent₃]
    rfl

/-- A cart is filled and paid with what the scope sees before. -/
theorem goes_payCart (making : EventTrail) (quantity token : Json)
    (hseen : ∀ entry ∈ [("event_id", making.event), ("ticket_type_id", making.type),
      ("quantity", quantity), ("card_token", token)],
      world.store.lookup context.scope entry.1 = some entry.2)
    (h : (payCart context).Goes network world (.ok produced) after marks)
    (hm : Mark.Heard marks) :
    ∃ trail : CartTrail, trail.Threaded making.type quantity token ∧
      produced = trail.outputs making ∧
      context.client.GetsAll network world.sent trail.exchanges ∧
      Mark.requests marks = trail.exchanges.map Prod.fst := by
  obtain ⟨filled, w₁, back₁, hr₁, hg₁, h, hm₁, hsent₁⟩ :=
    context.goes_of_request network _ world after produced marks _ _ _ h hm
  obtain ⟨cart, hcart, h⟩ := context.goes_of_take network _ _ after produced back₁ _ _ _ _ h
  obtain ⟨total, htotal, h⟩ := context.goes_of_take network _ _ after produced back₁ _ _ _ _ h
  obtain ⟨paid, w₂, back₂, hr₂, hg₂, h, hm₂, hsent₂⟩ :=
    context.goes_of_request network _ _ after produced back₁ _ _ _ h hm₁
  obtain ⟨order, horder, h⟩ := context.goes_of_take network _ _ after produced back₂ _ _ _ _ h
  obtain ⟨houtputs, -, rfl⟩ := context.outputsIn_of_goes network _ after back₂ _ produced h
  have hfilled (key : String) := Store.lookup_set world.store context.scope "cart_id" cart hid key
  have hpriced (key : String) := Store.lookup_set (world.store.set context.scope "cart_id" cart)
    context.scope "cart_total_in_cents" total (by rwa [Store.length_set]) key
  have hpaid (key : String) := Store.lookup_set
    ((world.store.set context.scope "cart_id" cart).set context.scope "cart_total_in_cents" total)
    context.scope "order_id" order (by rwa [Store.length_set, Store.length_set]) key
  have hevent := hseen ("event_id", making.event) (by simp)
  have htype := hseen ("ticket_type_id", making.type) (by simp)
  have hquantity := hseen ("quantity", quantity) (by simp)
  have htoken := hseen ("card_token", token) (by simp)
  refine ⟨⟨(w₁, filled), (w₂, paid), cart, total, order⟩, ?_, ?_, ?_, ?_⟩
  · constructor
    case fill =>
      exact target_of_resolve _ _ filled "/cart" hr₁ rfl
        (substitute_of_plain _ "/cart" (by decide +kernel))
    case tickets =>
      exact body_of_cart _ filled.request making.type quantity hr₁ htype hquantity
    case cart => exact hcart
    case total => exact htotal
    case pay =>
      exact target_of_resolve _ _ paid "/cart/checkout" hr₂ rfl
        (substitute_of_plain _ "/cart/checkout" (by decide +kernel))
    case amount =>
      exact body_of_checkout _ paid.request total token hr₂ (hpriced "cart_total_in_cents")
        (((hpriced "card_token").trans (hfilled "card_token")).trans htoken)
    case order => exact horder
  · have hmade := context.outputsIn_of_seen
      (((world.store.set context.scope "cart_id" cart).set context.scope "cart_total_in_cents"
        total).set context.scope "order_id" order)
      [("event_id", making.event), ("ticket_type_id", making.type), ("cart_id", cart),
        ("order_id", order)]
      (by simp [hpaid, hpriced, hfilled, hevent, htype])
    refine (Except.ok.inj (houtputs.symm.trans hmade)).trans ?_
    simp only [List.foldr_cons, List.foldr_nil]
    rfl
  · exact .cons _ _ _ _ hg₁ (.cons _ _ _ _ hg₂ (.nil _))
  · rw [hsent₁, hsent₂]
    rfl

/-- A variable that is set under a condition. -/
theorem goes_of_settled (settle : Bool) (key : String) (value : Json) (rest : Trial Outputs)
    (h : (if settle = true then context.set key value >>= fun _ => rest else rest).Goes network
      world (.ok produced) after marks) :
    ∃ store : Store, store.length = world.store.length ∧
      (store.lookup context.scope key =
        if settle = true then some value else world.store.lookup context.scope key) ∧
      (∀ k ≠ key, store.lookup context.scope k = world.store.lookup context.scope k) ∧
      rest.Goes network (world.mapStore fun _ => store) (.ok produced) after marks := by
  cases settle with
  | false => exact ⟨world.store, rfl, rfl, fun _ _ => rfl, h⟩
  | true =>
    obtain ⟨_, middle, front, back, ⟨hset, rfl⟩, h, rfl⟩ := Trial.goes_of_bind _ _ _ _ _ _ _ h
    cases hset
    refine ⟨world.store.set context.scope key value, Store.length_set .., ?_, fun k hk => ?_, h⟩
    · exact Store.lookup_set_self world.store context.scope key value hid
    · exact Store.lookup_set_of_ne world.store context.scope context.scope key k value hk.symm

/-- A paid cart is for the event that its scope sees. One ticket is bought and a test card pays,
unless something else is set. -/
theorem goes_buildPaidCart (params : Fixture.Params) (making : EventTrail) (quantity : Json)
    (hevent : world.store.lookup context.scope "event_id" = some making.event)
    (htype : world.store.lookup context.scope "ticket_type_id" = some making.type)
    (hquantity : (if params.contains "quantity" = true
      then world.store.lookup context.scope "quantity" else some (.int 1)) = some quantity)
    (h : (buildPaidCart context params).Goes network world (.ok produced) after marks)
    (hm : Mark.Heard marks) :
    ∃ trail : CartTrail, trail.Threaded making.type quantity
        ((world.store.lookup context.scope "card_token").getD (.str "tok_visa")) ∧
      produced = trail.outputs making ∧
      context.client.GetsAll network world.sent trail.exchanges ∧
      Mark.requests marks = trail.exchanges.map Prod.fst := by
  rw [buildPaidCart] at h
  obtain ⟨store₁, hlength₁, hsettled₁, hkept₁, h⟩ := goes_of_settled context network world after
    produced marks hid (!params.contains "quantity") "quantity" (.int 1) _ h
  obtain ⟨known, middle, front, back, ⟨hknown, rfl⟩, h, rfl⟩ := Trial.goes_of_bind _ _ _ _ _ _ _ h
  cases hknown
  obtain ⟨store₂, hlength₂, hsettled₂, hkept₂, h⟩ := goes_of_settled context network
    (world.mapStore fun _ => store₁) after produced marks (hlength₁.symm ▸ hid)
    (!store₁.has context.scope "card_token") "card_token" (.str "tok_visa") (payCart context) h
  have hkept (key : String) (hq : key ≠ "quantity") (hc : key ≠ "card_token") :
      store₂.lookup context.scope key = world.store.lookup context.scope key :=
    (hkept₂ key hc).trans (hkept₁ key hq)
  have hbought : store₂.lookup context.scope "quantity" = some quantity := by
    rw [hkept₂ "quantity" (by decide), ← hquantity]
    refine hsettled₁.trans ?_
    cases params.contains "quantity" <;> rfl
  have hcard : store₂.lookup context.scope "card_token" =
      some ((world.store.lookup context.scope "card_token").getD (.str "tok_visa")) := by
    rw [hsettled₂, Store.has]
    show (if _ then _ else store₁.lookup context.scope "card_token") = _
    rw [hkept₁ "card_token" (by decide)]
    cases world.store.lookup context.scope "card_token" <;> rfl
  refine goes_payCart context network ((world.mapStore fun _ => store₁).mapStore fun _ => store₂)
    after produced marks (Nat.lt_of_lt_of_eq hid (hlength₂.trans hlength₁).symm) making quantity _
    ?_ h hm
  simp only [List.forall_mem_cons, List.not_mem_nil, false_imp_iff, implies_true, and_true]
  refine ⟨?_, ?_, hbought, hcard⟩
  · exact (hkept "event_id" (by decide) (by decide)).trans hevent
  · exact (hkept "ticket_type_id" (by decide) (by decide)).trans htype

end Builds

end Ticketing

end ApiTrial
