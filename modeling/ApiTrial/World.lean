import ApiTrial.Environment.Basic
import ApiTrial.Network.Basic

/-!
What a run changes: the variables, which fixture wrote a key last, and the requests sent so far. A
request counts as sent when it is handed to the HTTP library; the hops of a redirect do not count.
-/
namespace ApiTrial

structure World where
  store : Store
  owners : Table String := []
  sent : List WireRequest := []

namespace World

def mapStore (change : Store → Store) (world : World) : World :=
  { world with store := change world.store }

def sending (request : WireRequest) (world : World) : World :=
  { world with sent := world.sent ++ [request] }

/-- The name under which the owner of a key is kept: the path of the scope and the key. -/
def ownerKey (path key : String) : String := path ++ "::" ++ key

/-- The fixture that last wrote a key in a scope, or in another scope of the same path. -/
def ownerOf? (world : World) (id : ScopeId) (key : String) : Option String :=
  world.owners.get? (ownerKey (world.store.path id) key)

end World

end ApiTrial
