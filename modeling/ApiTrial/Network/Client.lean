import ApiTrial.Network.Address
import ApiTrial.Request.Url
import ApiTrial.Response.Basic
import ApiTrial.Routine.Basic

/-!
The client of one server: it fills in requests, sends them, and tries again after a broken
connection as often as its retry policy says. An answer of any status ends the attempts.
-/
namespace ApiTrial

/-- How often a broken connection is tried again, and the milliseconds before each new try. -/
structure RetryPolicy where
  retries : Nat := 0
  backoff : Nat := 0
  deriving DecidableEq, Repr

/-- A client: the address of the server without slashes at its end, the milliseconds that it waits
for an answer, and its retry policy. -/
structure Client where
  base : String
  patience : Nat
  retry : RetryPolicy := {}

def isHeaderNameChar (c : Char) : Bool :=
  c.isAlphanum || "!#$%&\x27*+-.^_\x60|~".toList.contains c

def isHeaderName (name : String) : Bool := !name.isEmpty && name.toList.all isHeaderNameChar

def isHeaderValue (value : String) : Bool :=
  value.toList.all fun c => (32 ≤ c.toNat && c.toNat != 127) || c == '\t'

namespace ResolvedRequest

/-- The reason why a request cannot be sent to an address, with the address if it is to blame. -/
def unsendable (address? : Option Address) : Error :=
  .invalidRequest ("builder error" ++ (address?.map fun a => s!" for url ({a.text})").getD "")

/-- The request as it is sent to a URL, if it can be sent. -/
def wire (request : ResolvedRequest) (url : String) : Except Error WireRequest :=
  match Address.parse? url with
  | none => .error (unsendable none)
  | some address =>
    if address.host.isNone then .error (unsendable (some address))
    else if !request.headers.all fun h => isHeaderName h.1 && isHeaderValue h.2 then
      .error (unsendable none)
    else if !address.isWeb then .error (unsendable (some address))
    else .ok ⟨request.method, address.text, request.headers, request.body⟩

end ResolvedRequest

namespace Client

def new (base : String) (patience : Nat) (retry : RetryPolicy := {}) : Client :=
  ⟨Url.trimSlashes base, patience, retry⟩

def urlOf (client : Client) (path : String) : String := Url.ofPath client.base path

/-- The error of a request that got no answer. -/
def unanswered (request : WireRequest) : Error :=
  .transport s!"error sending request for url ({request.url})"

/-- The response that an answer gives to a request. -/
def response (client : Client) (request : ResolvedRequest) (answer : Answer) : Response where
  request := request
  url := client.urlOf request.path
  status := answer.status
  headers := answer.headers
  body := answer.body

def attempt (client : Client) (request : ResolvedRequest) : Trial Response :=
  ExceptT.mk <|
    match request.wire (client.urlOf request.path) with
    | .error e => .done (.error e)
    | .ok wire =>
      .send wire client.patience fun seen =>
        match seen.answer? with
        | some answer => .done (.ok (client.response request answer))
        | none => .done (.error (unanswered wire))

/-- Sends a request, and again after each transport error as long as retries are left. -/
def attempts (client : Client) (request : ResolvedRequest) (backoff : Nat) : Nat → Trial Response
  | 0 => client.attempt request
  | retries + 1 =>
    ExceptT.mk <| (client.attempt request).run.bind fun
      | .error e =>
        -- A request that is refused before it is sent would be refused again.
        if e.isTransport then .pause backoff (client.attempts request backoff retries).run
        else .done (.error e)
      | .ok response => .done (.ok response)

/-- Sends a request under a retry policy. -/
def sendWith (client : Client) (retry : RetryPolicy) (request : ResolvedRequest) : Trial Response :=
  client.attempts request retry.backoff retry.retries

def send (client : Client) (request : ResolvedRequest) : Trial Response :=
  client.sendWith client.retry request

end Client

/-- A request filled in with the variables that a scope sees. -/
def RequestTemplate.resolveIn (template : RequestTemplate) (scope : ScopeId) :
    Trial ResolvedRequest :=
  ExceptT.mk (Routine.read fun world => template.resolve (world.store.lookup scope))

namespace Client

/-- Fills in a request and sends it under a retry policy. -/
def executeWith (client : Client) (retry : RetryPolicy) (template : RequestTemplate)
    (scope : ScopeId) : Trial Response := do
  client.sendWith retry (← template.resolveIn scope)

/-- Fills in a request and sends it under the policy of the client. -/
def execute (client : Client) (template : RequestTemplate) (scope : ScopeId) : Trial Response :=
  client.executeWith client.retry template scope

end Client

end ApiTrial
