/-!
The phases of a run. A run goes from idle through setup, acting and asserting to teardown and done;
setup, acting and asserting may also fail, and a failed run is torn down too.
-/
namespace ApiTrial

inductive Phase where
  | idle | setup | acting | asserting | teardown | done | failed
  deriving DecidableEq, Repr

namespace Phase

def word : Phase → String
  | idle => "idle"
  | setup => "setup"
  | acting => "acting"
  | asserting => "asserting"
  | teardown => "teardown"
  | done => "done"
  | failed => "failed"

def all : List Phase := [idle, setup, acting, asserting, teardown, done, failed]

/-- A run may go on from one phase to another. -/
def canMoveTo : Phase → Phase → Bool
  | idle, setup => true
  | setup, acting => true
  | acting, asserting => true
  | asserting, teardown => true
  | setup, failed => true
  | acting, failed => true
  | asserting, failed => true
  | failed, teardown => true
  | teardown, done => true
  | _, _ => false

end Phase

end ApiTrial
