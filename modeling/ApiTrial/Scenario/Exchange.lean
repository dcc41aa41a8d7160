import ApiTrial.Response.Basic
import ApiTrial.Scenario.Lifecycle
import ApiTrial.Text.Shortened

/-!
What a run lets be seen while it goes on: the phases that it enters and the exchanges that were
answered.
-/
namespace ApiTrial

/-- A request and its response, kept for a report. -/
structure Exchange where
  phase : Phase
  label : String
  method : String
  url : String
  requestHeaders : List (String × String) := []
  requestBody : Option String := none
  status : Nat
  etag : Option String := none
  responseBody : String := ""

/-- The characters of a response body that a report keeps. -/
def Exchange.bodyLimit : Nat := 2000

/-- The record of a response. -/
def Exchange.ofResponse (phase : Phase) (label : String) (response : Response) : Exchange where
  phase := phase
  label := label
  method := response.request.method.word
  url := response.url
  requestHeaders := response.request.headers
  requestBody := response.request.body
  status := response.status
  etag := response.etag?
  responseBody := Text.shortened bodyLimit response.bodyText

/-- Something that a run lets be seen. -/
inductive Event where
  | entered (phase : Phase)
  | exchanged (exchange : Exchange)

def Event.phase? : Event → Option Phase
  | entered phase => some phase
  | exchanged _ => none

def Event.exchange? : Event → Option Exchange
  | entered _ => none
  | exchanged exchange => some exchange

end ApiTrial
