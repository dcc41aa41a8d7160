import ApiTrial.Decimal.Binary64

/-!
The fewest decimal digits that round back to a number, and of those the nearest to it. A point of
a decimal grid rounds back if it lies in the interval around the number; if any point of a grid
does, so does one of the two that enclose the number.
-/
namespace ApiTrial.Binary64

/-- The numbers that round to `± centre / unit`, as far as they have its sign. -/
structure Interval where
  low : Nat
  centre : Nat
  high : Nat
  unit : Nat
  closed : Bool

/-- The interval of reals that round to a number. -/
def interval (x : Binary64) : Interval :=
  let m := x.significand
  let scale := Nat.pow 2 (x.exponent - 2).toNat
  let narrow := m = Nat.pow 2 52 ∧ minExponent < x.exponent
  { low := (if narrow then 4 * m - 1 else 4 * m - 2) * scale
    centre := 4 * m * scale
    high := (4 * m + 2) * scale
    unit := Nat.pow 2 (2 - x.exponent).toNat
    closed := m % 2 = 0 }

/-- The point `digits · 10 ^ exponent` rounds to the number of the interval. -/
def Interval.holds (i : Interval) (digits : Nat) (exponent : Int) : Bool :=
  let point := digits * i.unit * Nat.pow 10 exponent.toNat
  let ten := Nat.pow 10 (-exponent).toNat
  if i.closed then decide (i.low * ten ≤ point) && decide (point ≤ i.high * ten)
  else decide (i.low * ten < point) && decide (point < i.high * ten)

/-- The greatest `k` with `10 ^ k` at most the number. -/
def decimalOrder (x : Binary64) : Int :=
  let guess : Int := ((x.significand.log2 : Int) + x.exponent) * 30103 / 100000
  let (a, b) := x.ratio
  let atLeast (k : Int) : Bool := decide (b * Nat.pow 10 k.toNat ≤ a * Nat.pow 10 (-k).toNat)
  if !atLeast guess then guess - 1
  else if atLeast (guess + 1) then guess + 1
  else guess

/-- The point of the grid `10 ^ exponent` that rounds back, the nearer one if two do. -/
def gridPoint? (i : Interval) (exponent : Int) : Option Nat :=
  let num := i.centre * Nat.pow 10 (-exponent).toNat
  let den := i.unit * Nat.pow 10 exponent.toNat
  let below := num / den
  match i.holds below exponent && below != 0, i.holds (below + 1) exponent with
  | true, true => some (roundEven below (num % den) den)
  | true, false => some below
  | false, true => some (below + 1)
  | false, false => none

/-- The first grid with a point that rounds back, from the coarsest one down. -/
def shortestFrom (i : Interval) (order : Int) : (places : Nat) → Nat × Int
  | 0 => (i.centre / i.unit, 0)
  | places + 1 =>
    let exponent := order - (16 - places : Nat)
    match gridPoint? i exponent with
    | some digits => (digits, exponent)
    | none => shortestFrom i order places

/-- The magnitude of a number as `digits · 10 ^ exponent`, with the fewest digits. -/
def shortest (x : Binary64) : Nat × Int :=
  if x.isZero then (0, 0) else shortestFrom x.interval x.decimalOrder 17

end ApiTrial.Binary64
