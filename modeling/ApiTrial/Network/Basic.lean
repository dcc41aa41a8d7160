import ApiTrial.Request.Basic

/-!
The network as it is seen through the HTTP library. It may answer as it likes, and its answer to a
request may depend on every request handed to the library before. Redirects are followed inside the
library: what it sends for them is not told here, and an answer is the one that it returns at last.
-/
namespace ApiTrial

/-- A request as it is handed to the HTTP library. -/
structure WireRequest where
  method : Method
  url : String
  headers : List (String × String)
  body : Option String
  deriving DecidableEq, Repr

/-- An answer as the HTTP library returns it, behind any redirects that it has followed. -/
structure Answer where
  status : Nat
  headers : List (String × List UInt8) := []
  body : List UInt8 := []
  deriving DecidableEq, Repr

/-- What becomes of a request that is handed to the HTTP library: after some milliseconds, all
redirects included, an answer or a broken connection, or nothing ever. -/
inductive Fate where
  | answered (delay : Nat) (answer : Answer)
  | broken (delay : Nat)
  | silent
  deriving DecidableEq, Repr

/-- What a sender who waits sees of a request: how long the wait was, and the answer if one came. -/
structure Attempt where
  elapsed : Nat
  answer? : Option Answer
  deriving DecidableEq, Repr

/-- What is seen of a fate by a sender who waits so many milliseconds at most. -/
def Fate.seenWithin (patience : Nat) : Fate → Attempt
  | answered delay answer => if delay < patience then ⟨delay, some answer⟩ else ⟨patience, none⟩
  | broken delay => ⟨min delay patience, none⟩
  | silent => ⟨patience, none⟩

/-- A network: the fate of a request, given the requests handed to the HTTP library before it. -/
abbrev Network := List WireRequest → WireRequest → Fate

/-- The network on which every connection fails at once. -/
def Network.unreachable : Network := fun _ _ => .broken 0

end ApiTrial
