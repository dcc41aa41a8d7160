import ApiTrial.Json.Parser
import ApiTrial.Json.Pointer
import ApiTrial.Request.Basic
import ApiTrial.Response.Status
import ApiTrial.Text.Blank
import ApiTrial.Text.Utf8

/-!
Responses, and the values that can be read out of them.
-/
namespace ApiTrial

/-- A response to a request, with the address that was asked. -/
structure Response where
  request : ResolvedRequest
  url : String
  status : Nat
  headers : List (String × List UInt8)
  body : List UInt8

namespace Response

/-- A byte shows as a character of a header line. -/
def isHeaderText (b : UInt8) : Bool := (decide (32 ≤ b) && decide (b < 127)) || b == 9

/-- A header value as text, if all of it shows. -/
def headerText? (value : List UInt8) : Option String :=
  if value.all isHeaderText then some (String.ofList (value.map fun b => Char.ofNat b.toNat))
  else none

/-- The first value of a header, whose name is compared without regard to case. -/
def headerBytes? (response : Response) (name : String) : Option (List UInt8) :=
  (response.headers.find? fun h => Text.sameIgnoringCase h.1 name).map (·.2)

/-- The first value of a header, if it is text. -/
def header? (response : Response) (name : String) : Option String :=
  (response.headerBytes? name).bind headerText?

def etag? (response : Response) : Option String := response.header? "etag"

def statusClass? (response : Response) : Option StatusClass := StatusClass.of? response.status

def isSuccess (response : Response) : Bool := StatusClass.success.contains response.status

def bodyText (response : Response) : String := Text.ofUtf8 response.body

def json? (response : Response) : Option Json :=
  if response.body.isEmpty then none else Json.ofBytes? response.body

/-- The body is blank, or an empty array or object. -/
def isBodyEmpty (response : Response) : Bool :=
  (Text.trimBlanks response.bodyText.toList).isEmpty ||
  match response.json? with
  | some (.obj members) => members.isEmpty
  | some (.arr items) => items.isEmpty
  | _ => false

/-- The value at a JSON pointer into the body. -/
def pointer? (response : Response) (pointer : String) : Option Json :=
  response.json?.bind (Json.pointer? pointer)

/-- The text behind a mark at the start of a text. -/
def afterMark? (mark text : List Char) : Option (List Char) :=
  if mark.isPrefixOf text then some (text.drop mark.length) else none

/-- What a capture reads. -/
inductive Source where
  | header (name : String)
  | status
  | pointer (pointer : String)
  deriving DecidableEq, Repr

/-- The source that a text names: a header, the status, or else a JSON pointer. -/
def Source.ofText (text : String) : Source :=
  match afterMark? "header:".toList text.toList with
  | some name => .header (String.ofList (Text.trimBlanks name))
  | none => if text = "status" then .status else .pointer text

/-- The value that a source has in a response. -/
def read? (response : Response) : Source → Option Json
  | .header name => (response.header? name).map Json.str
  | .status => some (.int response.status)
  | .pointer pointer => response.pointer? pointer

/-- The value that a capture takes from a response. -/
def capture? (response : Response) (source : String) : Option Json :=
  response.read? (Source.ofText source)

end Response

end ApiTrial
