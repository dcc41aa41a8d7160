import ApiTrial.Text.Ascii

/-!
Status codes, their classes, and what a step expects of one.
-/
namespace ApiTrial

/-- The class of a status code, given by its first digit. -/
inductive StatusClass where
  | informational | success | redirection | clientError | serverError
  deriving DecidableEq, Repr

namespace StatusClass

/-- The hundred that the codes of a class begin at. -/
def hundred : StatusClass → Nat
  | informational => 1
  | success => 2
  | redirection => 3
  | clientError => 4
  | serverError => 5

def all : List StatusClass := [informational, success, redirection, clientError, serverError]

def contains (c : StatusClass) (status : Nat) : Bool := c.hundred == status / 100

def of? (status : Nat) : Option StatusClass := all.find? fun c => c.contains status

def display : StatusClass → String
  | informational => "1xx"
  | success => "2xx"
  | redirection => "3xx"
  | clientError => "4xx"
  | serverError => "5xx"

/-- The class that a text of either case names. -/
def parse? (text : String) : Option StatusClass :=
  all.find? fun c => c.display == Text.lowerAscii text

/-- The complaint about a text that names no class. -/
def unknown (text : String) : String :=
  "unknown status class '" ++ Text.lowerAscii text ++ "', expected 1xx..5xx"

theorem parse?_display (c : StatusClass) : parse? c.display = some c := by cases c <;> decide

theorem hundred_injective {c d : StatusClass} (h : c.hundred = d.hundred) : c = d := by
  cases c <;> cases d <;> first | rfl | cases h

/-- A code is of one class at most. -/
theorem eq_of_contains {c d : StatusClass} {status : Nat} (hc : c.contains status = true)
    (hd : d.contains status = true) : c = d := by
  simp only [contains, beq_iff_eq] at hc hd
  exact hundred_injective (hc.trans hd.symm)

end StatusClass

/-- What a step expects of a status code. -/
inductive StatusExpectation where
  | code (status : Nat)
  | oneOf (c : StatusClass)
  deriving DecidableEq, Repr

namespace StatusExpectation

def meets : StatusExpectation → Nat → Bool
  | code expected, status => expected == status
  | oneOf c, status => c.contains status

def display : StatusExpectation → String
  | code status => toString status
  | oneOf c => c.display

end StatusExpectation

end ApiTrial
