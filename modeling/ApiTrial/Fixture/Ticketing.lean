import ApiTrial.Fixture.Basic

/-!
The fixtures of the ticketing server: an event on sale, and a cart for it that is paid.
-/
namespace ApiTrial.Ticketing

/-- A placeholder of a variable. -/
def placeholder (key : String) : String := "\x7b\x7b" ++ key ++ "\x7d\x7d"

/-- A request that posts to a path as a role. -/
def post (path role : String) : RequestTemplate := (RequestTemplate.new .post path).withAuth role

def defaultEventName : String := "Conformance event"

/-- The name parameter, if it is a text. -/
def eventName (params : Fixture.Params) : String :=
  ((params.get? "name").bind Json.str?).getD defaultEventName

def eventRequest (name : String) : RequestTemplate :=
  (post "/events" "org_member").withJson <| Json.ofMembers [
    ("name", .str name),
    ("organization_id", .str (placeholder "organization_id")),
    ("venue_id", .str (placeholder "venue_id")),
    ("event_start", .str "2059-11-13T12:00:00"),
    ("door_time", .str "2059-11-13T11:00:00"),
    ("age_limit", .int 18)]

/-- The first day of sale. -/
def saleStart : String := "2017-11-21T00:00:00"

/-- The last day of sale. -/
def saleEnd : String := "8999-01-10T02:22:00"

/-- The request for the ticket type of an event. -/
def ticketTypeRequest (capacity price : Json) : RequestTemplate :=
  (post ("/events/" ++ placeholder "event_id" ++ "/ticket_types") "org_member").withJson <|
    Json.ofMembers [
      ("name", .str "General Admission"),
      ("capacity", capacity),
      ("start_date", .str saleStart),
      ("end_date", .str saleEnd),
      ("visibility", .str "Always"),
      ("limit_per_person", .int 0),
      ("ticket_pricing", .arr [Json.ofMembers [
        ("name", .str "Standard"),
        ("price_in_cents", price),
        ("start_date", .str saleStart),
        ("end_date", .str saleEnd)]])]

def publishRequest : RequestTemplate :=
  post ("/events/" ++ placeholder "event_id" ++ "/publish") "org_member"

/-- Makes an event with one ticket type and publishes it. -/
def buildEvent (context : Fixture.Context) (params : Fixture.Params) : Trial Fixture.Outputs := do
  let capacity := (params.get? "capacity").getD (.int 100)
  let price := (params.get? "price_in_cents").getD (.int 3000)
  let stage := "create event"
  let response ← context.request stage (eventRequest (eventName params)) .success
  context.set "event_id" (← Trial.ofExcept (context.extract stage response "/id"))
  let stage := "create ticket type"
  let response ← context.request stage (ticketTypeRequest capacity price) .success
  context.set "ticket_type_id" (← Trial.ofExcept (context.extract stage response "/id"))
  let _ ← context.request "publish event" publishRequest .success
  context.outputs ["event_id", "ticket_type_id"]

/-- A published event with one ticket type. Parameters: `name`, `capacity`, `price_in_cents`. -/
def event : Fixture where
  name := "create_event"
  description := "Create and publish an event with a general-admission ticket type"
  requires := ["org_member_token", "organization_id", "venue_id"]
  outputs := ["event_id", "ticket_type_id"]
  build := buildEvent

def cartRequest : RequestTemplate :=
  (post "/cart" "user").withText <|
    "\x7b\x22items\x22: [\x7b\x22ticket_type_id\x22: \x22" ++ placeholder "ticket_type_id" ++
      "\x22, \x22quantity\x22: " ++ placeholder "quantity" ++ "\x7d]\x7d"

/-- The request that pays for a cart. -/
def checkoutRequest : RequestTemplate :=
  (post "/cart/checkout" "user").withText <| "\n".intercalate [
    "\x7b",
    "    \x22amount\x22: " ++ placeholder "cart_total_in_cents" ++ ",",
    "    \x22method\x22: \x7b",
    "        \x22type\x22: \x22Card\x22,",
    "        \x22provider\x22: \x22stripe\x22,",
    "        \x22token\x22: \x22" ++ placeholder "card_token" ++ "\x22,",
    "        \x22save_payment_method\x22: false,",
    "        \x22set_default\x22: false",
    "    \x7d",
    "\x7d"]

/-- Fills a cart for the event built before, and checks out. -/
def buildPaidCart (context : Fixture.Context) (params : Fixture.Params) :
    Trial Fixture.Outputs := do
  if !params.contains "quantity" then context.set "quantity" (.int 1)
  if !(← context.has "card_token") then context.set "card_token" (.str "tok_visa")
  let stage := "fill cart"
  let response ← context.request stage cartRequest .success
  context.set "cart_id" (← Trial.ofExcept (context.extract stage response "/id"))
  context.set "cart_total_in_cents"
    (← Trial.ofExcept (context.extract stage response "/total_in_cents"))
  let stage := "checkout"
  let response ← context.request stage checkoutRequest .success
  context.set "order_id" (← Trial.ofExcept (context.extract stage response "/id"))
  context.outputs ["event_id", "ticket_type_id", "cart_id", "order_id"]

/-- The event that a paid cart is for: its name is the parameter `event`. -/
def eventCall (params : Fixture.Params) : Fixture.Call where
  name := event.name
  params := match params.get? "event" with
    | some name => [("name", name)]
    | none => []

/-- A paid cart for an event of its own. Parameters: `event`, `quantity`. -/
def paidCart : Fixture where
  name := "create_paid_cart"
  description := "Create an event, fill a cart for it and check out"
  dependencies := fun params => [eventCall params]
  requires := ["user_token"]
  outputs := ["event_id", "ticket_type_id", "cart_id", "order_id"]
  build := buildPaidCart

def fixtures : List Fixture := [event, paidCart]

end ApiTrial.Ticketing
