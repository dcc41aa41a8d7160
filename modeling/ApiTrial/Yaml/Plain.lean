import ApiTrial.Document.Data
import ApiTrial.Json.Parser

/-!
What a plain scalar means: nothing, a truth value, a number, or else a text. Digits after a leading
zero are a text.
-/
namespace ApiTrial.Yaml

/-- The words for nothing. -/
def isNull (text : String) : Bool := ["null", "Null", "NULL", "~"].contains text

/-- The truth value of a word. -/
def bool? (text : String) : Option Bool :=
  if ["true", "True", "TRUE"].contains text then some true
  else if ["false", "False", "FALSE"].contains text then some false
  else none

/-- A sign followed by digits that begin with a zero but are not just one. -/
def isPadded (text : List Char) : Bool :=
  let digits := match text with
    | '-' :: r => r
    | '+' :: r => r
    | r => r
  decide (1 < digits.length) && digits.head? == some '0' && digits.all Char.isDigit

/-- The value of digits in a base up to 16, of which there is at least one. -/
def digits? (base : Nat) (digits : List Char) : Option Nat :=
  if digits.isEmpty then none
  else digits.foldlM
    (fun n c => do
      let d ← Json.hexValue? c
      if d < base then some (n * base + d) else none) 0

/-- The base that a mark in front of digits asks for, with the digits. -/
def based? : List Char → Option (Nat × List Char)
  | '0' :: 'x' :: r => some (16, r)
  | '0' :: 'o' :: r => some (8, r)
  | '0' :: 'b' :: r => some (2, r)
  | _ => none

/-- The magnitude of digits behind an optional mark of their base. -/
def magnitude? (padded : Bool) (digits : List Char) : Option Nat :=
  match (based? digits).bind fun (base, rest) => digits? base rest with
  | some n => some n
  | none => if padded then none else digits? 10 digits

/-- The natural number of a text below a limit, with an optional plus sign. -/
def nat? (limit : Nat) (text : List Char) : Option Nat :=
  let digits := match text with
    | '+' :: r => r
    | r => r
  (magnitude? (isPadded text) digits).filter (· < limit)

/-- The integer of a text with a minus sign, down to the negative of a limit. -/
def negative? (limit : Nat) : List Char → Option Int
  | '-' :: digits =>
    ((magnitude? (isPadded ('-' :: digits)) digits).filter (· ≤ limit)).map fun n => -(n : Int)
  | _ => none

/-- The decimal digits at the head of a text, and the rest. -/
def spanDigits (text : List Char) : List Char × List Char :=
  (text.takeWhile Char.isDigit, text.dropWhile Char.isDigit)

/-- The exponent of a decimal number, which ends it. -/
def exponent? : List Char → Option Int
  | [] => some 0
  | e :: r =>
    if e ≠ 'e' ∧ e ≠ 'E' then none else
    match r with
    | '-' :: r => (digits? 10 r).map fun n => -(n : Int)
    | '+' :: r => (digits? 10 r).map fun n => (n : Int)
    | r => (digits? 10 r).map fun n => (n : Int)

/-- The number of a decimal text without a sign; beyond the greatest one there is none. -/
def decimal? (negative : Bool) (text : List Char) : Option Binary64 :=
  let (whole, rest) := spanDigits text
  let (fraction, rest) := match rest with
    | '.' :: r => spanDigits r
    | r => ([], r)
  if whole.isEmpty && fraction.isEmpty then none else do
    let exponent ← exponent? rest
    let digits ← digits? 10 (whole ++ fraction)
    Binary64.ofDecimal negative digits (exponent - fraction.length)

/-- The real number of a text, which may be no finite one. -/
def real? (text : List Char) : Option (Option Binary64) :=
  let spelled := String.ofList text
  if [".inf", ".Inf", ".INF", "+.inf", "+.Inf", "+.INF", "-.inf", "-.Inf", "-.INF", ".nan", ".NaN",
    ".NAN"].contains spelled then some none
  else
    match text with
    | '+' :: r => if r.head? == some '+' || r.head? == some '-' then none
      else (decimal? false r).map some
    | '-' :: r => (decimal? true r).map some
    | r => (decimal? false r).map some

/-- Integers that have no place among the values of a document: 64 bits are too few for them and
128 are not. -/
def isOversized (text : List Char) : Bool :=
  (nat? (Nat.pow 2 128) text).isSome || (negative? (Nat.pow 2 127) text).isSome

def int? (text : List Char) : Option Int :=
  match nat? UInt64.size text with
  | some n => some n
  | none => negative? (Nat.pow 2 63) text

/-- What a plain scalar means. An oversized integer is refused. -/
def plainData? (text : String) : Option Data :=
  let chars := text.toList
  if text.isEmpty || isNull text then some .null
  else match bool? text with
  | some b => some (.bool b)
  | none =>
    match int? chars with
    | some i => some (.int i)
    | none =>
      if isOversized chars then none
      else if isPadded chars then some (.text text)
      else match real? chars with
      | some x => some (.real x)
      | none => some (.text text)

end ApiTrial.Yaml
