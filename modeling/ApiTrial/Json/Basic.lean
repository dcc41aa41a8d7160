import ApiTrial.Decimal.Binary64
import ApiTrial.Table

/-!
JSON values. Whole numbers within 64 bits are integers and all others have 53 binary places; an
integer never equals a number of the other kind. Members of an object are held in key order.
-/
namespace ApiTrial

inductive Json where
  | null
  | bool (value : Bool)
  | int (value : Int)
  | float (value : Binary64)
  | str (text : String)
  | arr (items : List Json)
  | obj (members : List (String × Json))
  deriving Inhabited, Repr

namespace Json

mutual

/-- Equality of values; the two zeros of a kind are one number. -/
def same : Json → Json → Bool
  | null, null => true
  | bool a, bool b => a == b
  | int a, int b => a == b
  | float a, float b => a.sameValue b
  | str a, str b => a == b
  | arr a, arr b => sameItems a b
  | obj a, obj b => sameMembers a b
  | _, _ => false

def sameItems : List Json → List Json → Bool
  | [], [] => true
  | a :: as, b :: bs => same a b && sameItems as bs
  | _, _ => false

def sameMembers : List (String × Json) → List (String × Json) → Bool
  | [], [] => true
  | (j, a) :: as, (k, b) :: bs => j == k && same a b && sameMembers as bs
  | _, _ => false

end

/-- The object of a list of members, in which a later member replaces an earlier one. -/
def ofMembers (members : List (String × Json)) : Json := obj (Table.ofEntries members)

def str? : Json → Option String
  | str text => some text
  | _ => none

def isNull : Json → Bool
  | null => true
  | _ => false

end Json

end ApiTrial
