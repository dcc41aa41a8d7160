import ApiTrial.Scenario.Definition

/-!
The scenario that checks entity tags of a cached endpoint: the first answer carries a tag, the same
query with that tag is answered as not modified and without a body, and another query with the tag
is answered in full.
-/
namespace ApiTrial

/-- An endpoint whose answer can be cached, and the same resource under another query. -/
structure Revalidation where
  endpoint : String
  otherEndpoint : String
  auth : Option String := none
  deriving DecidableEq, Repr

namespace Revalidation

/-- The variable that holds the entity tag of the first answer. -/
def tagKey : String := "cached_etag"

/-- The ids of the three actions. -/
def initial : String := "initial"

def revalidated : String := "revalidated"

def otherQuery : String := "other_query"

def tagPlaceholder : String := "\x7b\x7b" ++ tagKey ++ "\x7d\x7d"

/-- The request of a path, with the token of the role if there is one. -/
def request (r : Revalidation) (path : String) : RequestTemplate :=
  { method := .get, path, auth := r.auth }

def actions (r : Revalidation) : List RequestStep :=
  [{ id := some initial, request := r.request r.endpoint, capture := [(tagKey, "header:etag")] },
   { id := some revalidated
     request := (r.request r.endpoint).withHeader "If-None-Match" tagPlaceholder },
   { id := some otherQuery
     request := (r.request r.otherEndpoint).withHeader "If-None-Match" tagPlaceholder }]

def assertions : List Assertion :=
  [(Assertion.ofStatus "first response should be 200" 200).on initial,
   (Assertion.ofStatus "same query with same etag status should be 304" 304).on revalidated,
   (Assertion.ofBodyEmpty "same query with same etag response should be empty" true).on revalidated,
   (Assertion.ofStatus "different query with same etag should be 200" 200).on otherQuery]

/-- A scenario with the requests and assertions behind those that it has. -/
def appendTo (r : Revalidation) (scenario : Scenario) : Scenario :=
  { scenario with
    actions := scenario.actions ++ r.actions
    assertions := scenario.assertions ++ assertions }

/-- A scenario of these requests and assertions alone. -/
def scenario (r : Revalidation) (name : String) : Scenario := r.appendTo { name }

end Revalidation

end ApiTrial
