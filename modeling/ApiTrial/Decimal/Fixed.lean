import ApiTrial.Decimal.Binary64

/-!
Numbers written with a fixed count of decimal places, and durations in seconds.
-/
namespace ApiTrial

/-- The digits of a number of tenths, hundredths and so on, with the point put in. -/
def fixedDigits (places n : Nat) : String :=
  let digits := (Nat.toDigits 10 (n % Nat.pow 10 places))
  let padded := List.replicate (places - digits.length) '0' ++ digits
  s!"{n / Nat.pow 10 places}." ++ String.ofList padded

namespace Binary64

/-- The magnitude rounded to so many places, a half going to the even digit. -/
def fixed (places : Nat) (x : Binary64) : String :=
  let (num, den) := x.ratio
  let scaled := num * Nat.pow 10 places
  fixedDigits places (roundEven (scaled / den) (scaled % den) den)

/-- The sum of two magnitudes, rounded. -/
def addMagnitudes? (x y : Binary64) : Option Binary64 :=
  let (a, b) := x.ratio
  let (c, d) := y.ratio
  ofRatio false (a * d + c * b) (b * d)

/-- Milliseconds in seconds: the whole seconds and the rest of them are rounded before they are
added. -/
def ofMilliseconds (ms : Nat) : Option Binary64 := do
  addMagnitudes? (← ofNat? (ms / 1000)) (← ofRatio false (ms % 1000) 1000)

end Binary64

/-- Milliseconds in seconds, with one place. -/
def secondsText (ms : Nat) : String :=
  ((Binary64.ofMilliseconds ms).map (Binary64.fixed 1)).getD ""

end ApiTrial
