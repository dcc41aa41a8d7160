import ApiTrial.Response.Basic
import ApiTrial.Scenario.Definition
import ApiTrial.Text.Occurs
import ApiTrial.Text.Quoted
import ApiTrial.Text.Shortened

/-!
The verdict on an assertion, given the responses of the actions and the variables. The first check
that fails gives the message; the checks are made in the order variable, status, status class, empty
body, JSON value, header.
-/
namespace ApiTrial

structure Verdict where
  name : String
  passed : Bool
  message : Option String := none
  deriving DecidableEq, Repr

/-- A response with the name of the action that it answers. -/
structure Labelled where
  label : String
  response : Response

/-- An expected value, and whether it was made from a template. -/
structure Expected where
  value : Json
  templated : Bool

namespace Expected

/-- The mark that makes a text a template. -/
def templateMark : String := "\x7b\x7b"

/-- The complaint about a template that has no value. -/
def unresolved (e : Error) : String := s!"cannot resolve expected value: {e.message}"

/-- The text that an expected text stands for. -/
def text (value? : String → Option Json) (source : String) : Except String String :=
  (Template.substitute source value?).mapError unresolved

/-- The value that an expected value stands for: a text with placeholders is filled in. -/
def resolve (value? : String → Option Json) : Json → Except String Expected
  | .str source =>
    if Text.occurs templateMark source then do
      return ⟨.str (← text value? source), true⟩
    else .ok ⟨.str source, false⟩
  | value => .ok ⟨value, false⟩

/-- A value is the expected one, or reads the same if that was made from a template. -/
def accepts (expected : Expected) (actual : Json) : Bool :=
  actual.same expected.value ||
    (expected.templated && actual.splice == expected.value.splice)

end Expected

/-- A complaint if a condition does not hold. -/
def require (holds : Bool) (complaint : String) : Except String Unit :=
  if holds then .ok () else .error complaint

/-- A check that is made only if something is set. -/
def whenSet {α : Type} (part : Option α) (check : α → Except String Unit) : Except String Unit :=
  match part with
  | some a => check a
  | none => .ok ()

namespace VariableExpectation

variable (expected : VariableExpectation) (value? : String → Option Json)

def checkPresent (present : Bool) : Except String Unit :=
  require ((value? expected.key).isSome == present)
    (if present then s!"expected '{expected.key}' to be set"
      else s!"expected '{expected.key}' to be unset")

def checkEquals (value : Json) : Except String Unit := do
  let wanted ← Expected.resolve value? value
  match value? expected.key with
  | some actual =>
    require (wanted.accepts actual)
      s!"expected '{expected.key}' to be {wanted.value.render}, got {actual.render}"
  | none => .error s!"'{expected.key}' is not set"

def check : Except String Unit := do
  whenSet expected.present (expected.checkPresent value?)
  whenSet expected.equals (expected.checkEquals value?)

end VariableExpectation

namespace JsonExpectation

variable (expected : JsonExpectation) (actual : Option Json) (value? : String → Option Json)

/-- There is a value, or none, as expected. -/
def checkExists (wanted : Bool) : Except String Unit :=
  require (actual.isSome == wanted)
    (if wanted then s!"expected a value at '{expected.pointer}'"
      else s!"expected nothing at '{expected.pointer}'")

/-- The value is the expected one; null is also met by no value. -/
def checkEquals (value : Json) : Except String Unit := do
  let wanted ← Expected.resolve value? value
  let shown := wanted.value.render
  match actual with
  | some actual =>
    require (wanted.accepts actual)
      s!"expected {shown} at '{expected.pointer}', got {actual.render}"
  | none =>
    require wanted.value.isNull s!"expected {shown} at '{expected.pointer}', found nothing"

/-- The text of the value contains the expected one. -/
def checkContains (source : String) : Except String Unit := do
  let needle ← Expected.text value? source
  let text := (actual.map Json.splice).getD ""
  require (Text.occurs needle text) s!"expected '{text}' to contain '{needle}'"

def check : Except String Unit := do
  whenSet expected.exists? (expected.checkExists actual)
  whenSet expected.equals (expected.checkEquals actual value?)
  whenSet expected.contains (checkContains actual value?)

end JsonExpectation

namespace HeaderExpectation

variable (expected : HeaderExpectation) (actual : Option String)
  (value? : String → Option Json)

/-- A header value in a complaint. -/
def shown : Option String → String
  | some text => s!"Some({Text.quoted text})"
  | none => "None"

def checkPresent (present : Bool) : Except String Unit :=
  require (actual.isSome == present)
    (if present then s!"expected header '{expected.name}'"
      else s!"unexpected header '{expected.name}'")

def checkEquals (source : String) : Except String Unit := do
  let wanted ← Expected.text value? source
  require (actual == some wanted)
    s!"expected header '{expected.name}: {wanted}', got {shown actual}"

def check : Except String Unit := do
  whenSet expected.present (expected.checkPresent actual)
  whenSet expected.equals (expected.checkEquals actual value?)

end HeaderExpectation

namespace Assertion

/-- The characters of a body that a complaint shows. -/
def shownBody : Nat := 200

/-- The response that an assertion is about: of the action that it names, or else the last. -/
def select (target : Option String) (responses : List Labelled) : Except String Response :=
  match target with
  | some label =>
    match responses.find? fun r => r.label == label with
    | some r => .ok r.response
    | none => .error s!"no response recorded for action '{label}'"
  | none =>
    match responses.getLast? with
    | some r => .ok r.response
    | none => .error "no response recorded"

def checkStatus (response : Response) (status : Nat) : Except String Unit :=
  require (response.status == status)
    (s!"expected status {status}, got {response.status} " ++
      s!"(body: {Text.shortened shownBody response.bodyText})")

def checkStatusClass (response : Response) (c : StatusClass) : Except String Unit :=
  require (c.contains response.status) s!"expected {c.display} status, got {response.status}"

def checkBodyEmpty (response : Response) (empty : Bool) : Except String Unit :=
  require (response.isBodyEmpty == empty)
    (if empty then s!"expected empty body, got '{Text.shortened shownBody response.bodyText}'"
      else "expected a body, got none")

def checkResponse (assertion : Assertion) (value? : String → Option Json) (response : Response) :
    Except String Unit := do
  whenSet assertion.status (checkStatus response)
  whenSet assertion.statusClass (checkStatusClass response)
  whenSet assertion.bodyEmpty (checkBodyEmpty response)
  whenSet assertion.json fun expected => expected.check (response.pointer? expected.pointer) value?
  whenSet assertion.header fun expected => expected.check (response.header? expected.name) value?

def check (assertion : Assertion) (responses : List Labelled) (value? : String → Option Json) :
    Except String Unit := do
  whenSet assertion.binding fun expected => expected.check value?
  if assertion.readsResponse then
    assertion.checkResponse value? (← select assertion.response responses)

def verdict (assertion : Assertion) (responses : List Labelled) (value? : String → Option Json) :
    Verdict :=
  match assertion.check responses value? with
  | .ok () => ⟨assertion.name, true, none⟩
  | .error message => ⟨assertion.name, false, some message⟩

end Assertion

end ApiTrial
