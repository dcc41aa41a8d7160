import ApiTrial.Template
import ApiTrial.Text.Ascii

/-!
Requests, before and after their placeholders are filled in. `RequestTemplate.placeholders` lists
what a request refers to, and `RequestTemplate.resolve` fills all of it in or fails as a whole.
-/
namespace ApiTrial

inductive Method where
  | get | post | put | patch | delete | head | options
  deriving DecidableEq, Repr

namespace Method

def word : Method → String
  | get => "GET"
  | post => "POST"
  | put => "PUT"
  | patch => "PATCH"
  | delete => "DELETE"
  | head => "HEAD"
  | options => "OPTIONS"

def all : List Method := [get, post, put, patch, delete, head, options]

def ofWord? (word : String) : Option Method := all.find? fun m => m.word == word

theorem ofWord?_word (m : Method) : ofWord? m.word = some m := by cases m <;> decide

end Method

/-- The body of a request: raw text, or a value that is written out first. -/
inductive BodyTemplate where
  | text (source : String)
  | json (value : Json)

/-- The text of a body, with its placeholders. -/
def BodyTemplate.source : BodyTemplate → String
  | text source => source
  | json value => value.render

/-- A request with placeholders in its path, its header values and its body. The role `auth` sends
the token stored for it. -/
structure RequestTemplate where
  method : Method
  path : String
  headers : Table String := []
  auth : Option String := none
  body : Option BodyTemplate := none

/-- A request with nothing left to fill in. -/
structure ResolvedRequest where
  method : Method
  path : String
  headers : List (String × String)
  body : Option String
  deriving DecidableEq, Repr

/-- The variable that holds the token of a role. -/
def tokenKey (role : String) : String := role ++ "_token"

namespace ResolvedRequest

/-- The value of a header, whose name is compared without regard to case. -/
def header? (request : ResolvedRequest) (name : String) : Option String :=
  (request.headers.find? fun h => Text.sameIgnoringCase h.1 name).map (·.2)

end ResolvedRequest

namespace RequestTemplate

/-- A request without headers, token or body. -/
def new (method : Method) (path : String) : RequestTemplate := { method, path }

def withHeader (request : RequestTemplate) (name value : String) : RequestTemplate :=
  { request with headers := request.headers.insert name value }

def withAuth (request : RequestTemplate) (role : String) : RequestTemplate :=
  { request with auth := some role }

def withText (request : RequestTemplate) (source : String) : RequestTemplate :=
  { request with body := some (.text source) }

def withJson (request : RequestTemplate) (value : Json) : RequestTemplate :=
  { request with body := some (.json value) }

/-- The keys of the placeholders of a text. -/
def keysOf (source : String) : Except Error (List String) :=
  (Template.parse source).map Template.placeholders

/-- The keys that a request refers to: path, header values, token, body. -/
def placeholders (request : RequestTemplate) : Except Error (List String) := do
  let path ← keysOf request.path
  let headers ← request.headers.mapM fun h => keysOf h.2
  let token := request.auth.toList.map tokenKey
  let body ← match request.body with
    | some body => keysOf body.source
    | none => pure []
  return path ++ headers.flatten ++ token ++ body

/-- A header list in which `name` has one value, at the end. -/
def replaceHeader (headers : List (String × String)) (name value : String) :
    List (String × String) :=
  headers.filter (fun h => !Text.sameIgnoringCase h.1 name) ++ [(name, value)]

/-- The headers of the template, filled in one after the other over the ones before. -/
def resolveHeaders (value? : String → Option Json) (headers : List (String × String)) :
    List (String × String) → Except Error (List (String × String))
  | [] => .ok headers
  | (name, source) :: rest => do
    let value ← Template.substitute source value?
    resolveHeaders value? (replaceHeader headers name value) rest

def tokenHeader (value? : String → Option Json) (role : String) : Except Error (String × String) :=
  match value? (tokenKey role) with
  | some token => .ok ("Authorization", "Bearer " ++ token.splice)
  | none => .error (.undefinedVariable (tokenKey role))

/-- The headers sent unless the template overrides them. -/
def defaultHeaders (request : RequestTemplate) (value? : String → Option Json) :
    Except Error (List (String × String)) := do
  let accept := [("Accept", "application/json")]
  let content := if request.body.isSome then [("Content-Type", "application/json")] else []
  let token ← match request.auth with
    | some role => (tokenHeader value? role).map ([·])
    | none => pure []
  return accept ++ content ++ token

/-- A request with every placeholder filled in. -/
def resolve (request : RequestTemplate) (value? : String → Option Json) :
    Except Error ResolvedRequest := do
  let path ← Template.substitute request.path value?
  -- The headers of the template come after the defaults and replace them.
  let defaults ← request.defaultHeaders value?
  let headers ← resolveHeaders value? defaults request.headers
  let body ← match request.body with
    | some body => (Template.substitute body.source value?).map some
    | none => pure none
  return { method := request.method, path, headers, body }

/-- The JSON form of a request: what is not set is left out. -/
def toJson (request : RequestTemplate) : Json :=
  Json.ofMembers <|
    [("method", .str request.method.word), ("path", .str request.path),
      ("headers", .obj (request.headers.map fun (n, v) => (n, .str v)))] ++
    request.auth.toList.map (fun role => ("auth", .str role)) ++
    request.body.toList.map fun
      | .text source => ("body", .str source)
      | .json value => ("body", value)

end RequestTemplate

end ApiTrial
