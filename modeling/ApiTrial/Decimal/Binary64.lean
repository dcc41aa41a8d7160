/-!
Finite numbers of 53 binary places: a sign, a significand and a power of two. `ofRatio` rounds a
quotient to the nearest of them, a half to the even neighbour, and products, quotients and decimal
texts all round through it.
-/
namespace ApiTrial

/-- The number `± significand · 2 ^ exponent`, with as small an exponent as 53 places allow. -/
structure Binary64 where
  negative : Bool
  significand : Nat
  exponent : Int
  deriving DecidableEq, Repr, Inhabited

namespace Binary64

def minExponent : Int := -1074

def maxExponent : Int := 971

def zero (negative : Bool) : Binary64 := ⟨negative, 0, minExponent⟩

/-- A number is zero, whatever its sign. -/
def isZero (x : Binary64) : Bool := x.significand == 0

/-- Numbers of equal value; the two zeros are equal. -/
def sameValue (x y : Binary64) : Bool :=
  (x.isZero && y.isZero) || x == y

/-- `num / (den · 2 ^ e)` as an integer and a remainder over the returned divisor. -/
def scaledQuotient (num den : Nat) (e : Int) : Nat × Nat × Nat :=
  let n := num * Nat.pow 2 (-e).toNat
  let d := den * Nat.pow 2 e.toNat
  (n / d, n % d, d)

/-- The nearest integer to `q + r / d`, a half going to the even one. -/
def roundEven (q r d : Nat) : Nat :=
  if 2 * r < d then q
  else if d < 2 * r then q + 1
  else q + q % 2

/-- The number nearest to `num / den`, or `none` beyond the greatest one. -/
def ofRatio (negative : Bool) (num den : Nat) : Option Binary64 :=
  if num = 0 then some (zero negative) else
  let guess : Int := max ((num.log2 : Int) - den.log2 - 53) minExponent
  let e := if (scaledQuotient num den guess).1 < Nat.pow 2 53 then guess else guess + 1
  let (q, r, d) := scaledQuotient num den e
  let m := roundEven q r d
  let (m, e) := if m = Nat.pow 2 53 then (Nat.pow 2 52, e + 1) else (m, e)
  if maxExponent < e then none
  else if m = 0 then some (zero negative)
  else some ⟨negative, m, e⟩

/-- The numerator and denominator of the magnitude. -/
def ratio (x : Binary64) : Nat × Nat :=
  (x.significand * Nat.pow 2 x.exponent.toNat, Nat.pow 2 (-x.exponent).toNat)

/-- The number nearest to a natural one. -/
def ofNat? (n : Nat) : Option Binary64 := ofRatio false n 1

/-- The rounded product. -/
def mul? (x y : Binary64) : Option Binary64 :=
  let (a, b) := x.ratio
  let (c, d) := y.ratio
  ofRatio (x.negative != y.negative) (a * c) (b * d)

/-- The rounded quotient by a number that is not zero. -/
def div? (x y : Binary64) : Option Binary64 :=
  let (a, b) := x.ratio
  let (c, d) := y.ratio
  ofRatio (x.negative != y.negative) (a * d) (b * c)

def neg (x : Binary64) : Binary64 := { x with negative := !x.negative }

def digitCount (n : Nat) : Nat := (Nat.toDigits 10 n).length

/-- The number nearest to `± digits · 10 ^ exponent`, or `none` beyond the greatest one. -/
def ofDecimal (negative : Bool) (digits : Nat) (exponent : Int) : Option Binary64 :=
  if digits = 0 then some (zero negative)
  else if 310 < exponent + digitCount digits then none
  else if exponent + digitCount digits < -330 then some (zero negative)
  else ofRatio negative (digits * Nat.pow 10 exponent.toNat) (Nat.pow 10 (-exponent).toNat)

/-- The greatest power of ten that has a nearest number. -/
def maxPower : Nat := 308

/-- The number nearest to a power of ten. -/
def powerOfTen? (n : Nat) : Option Binary64 := ofRatio false (Nat.pow 10 n) 1

/-- The magnitude `digits · 10 ^ exponent`, rounded once as an integer and once for each power of
ten it is then multiplied or divided by. -/
def ofScaled (digits : Nat) (exponent : Int) : Option Binary64 := do
  let x ← ofNat? digits
  let n := exponent.natAbs
  if x.isZero then return x
  if 0 ≤ exponent then
    if n ≤ maxPower then x.mul? (← powerOfTen? n) else none
  else if n ≤ maxPower then x.div? (← powerOfTen? n)
  else if n ≤ 2 * maxPower then
    let y ← x.div? (← powerOfTen? maxPower)
    y.div? (← powerOfTen? (n - maxPower))
  else return zero false

end Binary64

end ApiTrial
