import ApiTrial.Json.Basic
import ApiTrial.Text.Utf8

/-!
Reading JSON text. The whole text is one value between blanks; arrays and objects nest at most 127
deep, and a number that exceeds every number of 53 binary places is refused.
-/
namespace ApiTrial.Json

/-- A text without the blanks before it. -/
def skipBlanks : List Char → List Char
  | c :: r => if c = ' ' ∨ c = '\n' ∨ c = '\t' ∨ c = '\r' then skipBlanks r else c :: r
  | [] => []

/-- The value of a hexadecimal digit of either case. -/
def hexValue? (c : Char) : Option Nat :=
  if c.isDigit then some (c.toNat - 48)
  else if 'a' ≤ c ∧ c ≤ 'f' then some (c.toNat - 87)
  else if 'A' ≤ c ∧ c ≤ 'F' then some (c.toNat - 55)
  else none

def hexValue4? (a b c d : Char) : Option Nat := do
  return ((← hexValue? a) * 16 + (← hexValue? b)) * 256 + (← hexValue? c) * 16 + (← hexValue? d)

/-- The character that a one-letter escape stands for. -/
def escaped? (c : Char) : Option Char :=
  if c = '\x22' ∨ c = '\\' ∨ c = '/' then some c
  else if c = 'b' then some '\x08'
  else if c = 'f' then some '\x0c'
  else if c = 'n' then some '\n'
  else if c = 'r' then some '\r'
  else if c = 't' then some '\t'
  else none

/-- The rest of a string whose characters so far are `acc`, last first. -/
def readString (acc : List Char) : List Char → Option (String × List Char)
  | [] => none
  | c :: r =>
    if c = '\x22' then some (String.ofList acc.reverse, r)
    else if c.toNat < 0x20 then none
    else if c ≠ '\\' then readString (c :: acc) r
    else match r with
    | [] => none
    | e :: r =>
      if e ≠ 'u' then
        match escaped? e with
        | some c => readString (c :: acc) r
        | none => none
      else match r with
      | a :: b :: c :: d :: r =>
        match hexValue4? a b c d with
        | none => none
        | some high =>
          if high < 0xD800 ∨ 0xDFFF < high then readString (Char.ofNat high :: acc) r
          else if 0xDBFF < high then none
          else match r with
          | s :: u :: a :: b :: c :: d :: r =>
            if s ≠ '\\' ∨ u ≠ 'u' then none else
            match hexValue4? a b c d with
            | none => none
            | some low =>
              if low < 0xDC00 ∨ 0xDFFF < low then none
              else
                readString
                  (Char.ofNat (0x10000 + (high - 0xD800) * 0x400 + (low - 0xDC00)) :: acc) r
          | _ => none
      | _ => none

/-- The value of a run of decimal digits, continuing from `n`. -/
def digitsValue (n : Nat) (digits : List Char) : Nat :=
  digits.foldl (fun n c => n * 10 + (c.toNat - 48)) n

/-- The significand of 64 bits that `value` and the digits after it make up, as far as they fit,
with the number of digits that do. -/
def fittingDigits (value : Nat) (count : Nat) : List Char → Nat × Nat
  | [] => (value, count)
  | c :: r =>
    let next := value * 10 + (c.toNat - 48)
    if next < UInt64.size then fittingDigits next (count + 1) r else (value, count)

/-- An exponent after its mark, with the text behind it. -/
def readExponent (text : List Char) : Option (Int × List Char) :=
  let (negative, text) : Bool × List Char := match text with
    | '-' :: r => (true, r)
    | '+' :: r => (false, r)
    | r => (false, r)
  let digits := text.takeWhile Char.isDigit
  if digits.isEmpty then none
  else
    let n : Int := digitsValue 0 digits
    some (if negative then -n else n, text.drop digits.length)

/-- The number with the given whole digits, fraction digits and exponent. -/
def number (negative : Bool) (whole fraction : List Char) (exponent : Option Int) : Option Json :=
  let (value, count) := fittingDigits 0 0 whole
  let isWhole := fraction.isEmpty && exponent.isNone && count == whole.length
  if isWhole && !negative then some (int value)
  else if isWhole && 0 < value && value ≤ Nat.pow 2 63 then some (int (-value))
  else
    -- Digits that do not fit any more are dropped, and those of the whole part move the scale.
    let (digits, taken) := fittingDigits value 0 fraction
    let scale : Int := (whole.length - count : Nat) - taken + exponent.getD 0
    (Binary64.ofScaled digits scale).map fun x => float (if negative then x.neg else x)

/-- The digits after a point, of which there is at least one, with the text behind them. -/
def readFraction (text : List Char) : Option (List Char × List Char) :=
  match text with
  | '.' :: r =>
    let digits := r.takeWhile Char.isDigit
    if digits.isEmpty then none else some (digits, r.drop digits.length)
  | r => some ([], r)

def readNumber (text : List Char) : Option (Json × List Char) := do
  let (negative, text) : Bool × List Char := match text with
    | '-' :: r => (true, r)
    | r => (false, r)
  let whole := text.takeWhile Char.isDigit
  if whole.isEmpty || (whole.head? == some '0' && 1 < whole.length) then none
  let (fraction, text) ← readFraction (text.drop whole.length)
  let (exponent, text) ← match text with
    | 'e' :: r => (readExponent r).map fun (n, r) => (some n, r)
    | 'E' :: r => (readExponent r).map fun (n, r) => (some n, r)
    | r => some (none, r)
  return (← number negative whole fraction exponent, text)

mutual

/-- A value at the head of a text, with at most `depth` levels of nesting; each step of the fuel
reads at least one character. -/
def readValue (depth : Nat) : (fuel : Nat) → List Char → Option (Json × List Char)
  | 0, _ => none
  | fuel + 1, text =>
    match skipBlanks text with
    | 'n' :: 'u' :: 'l' :: 'l' :: r => some (null, r)
    | 't' :: 'r' :: 'u' :: 'e' :: r => some (bool true, r)
    | 'f' :: 'a' :: 'l' :: 's' :: 'e' :: r => some (bool false, r)
    | '\x22' :: r => (readString [] r).map fun (text, r) => (str text, r)
    | '[' :: r =>
      if depth = 0 then none else
      match skipBlanks r with
      | ']' :: r => some (arr [], r)
      | r => (readItems (depth - 1) fuel r).map fun (items, r) => (arr items, r)
    | '\x7b' :: r =>
      if depth = 0 then none else
      match skipBlanks r with
      | '\x7d' :: r => some (obj [], r)
      | r => (readMembers (depth - 1) fuel r).map fun (members, r) => (ofMembers members, r)
    | r => readNumber r

def readItems (depth : Nat) : (fuel : Nat) → List Char → Option (List Json × List Char)
  | 0, _ => none
  | fuel + 1, text =>
    match readValue depth fuel text with
    | none => none
    | some (item, r) =>
      match skipBlanks r with
      | ',' :: r => (readItems depth fuel r).map fun (items, r) => (item :: items, r)
      | ']' :: r => some ([item], r)
      | _ => none

/-- The members of an object up to its end. -/
def readMembers (depth : Nat) :
    (fuel : Nat) → List Char → Option (List (String × Json) × List Char)
  | 0, _ => none
  | fuel + 1, text =>
    match skipBlanks text with
    | '\x22' :: r =>
      match readString [] r with
      | none => none
      | some (key, r) =>
        match skipBlanks r with
        | ':' :: r =>
          match readValue depth fuel r with
          | none => none
          | some (value, r) =>
            match skipBlanks r with
            | ',' :: r =>
              (readMembers depth fuel r).map fun (members, r) => ((key, value) :: members, r)
            | '\x7d' :: r => some ([(key, value)], r)
            | _ => none
        | _ => none
    | _ => none

end

/-- The levels of nesting that a text may have. -/
def nestingLimit : Nat := 127

def parse? (text : String) : Option Json :=
  let chars := text.toList
  match readValue nestingLimit (chars.length + 1) chars with
  | some (value, rest) => if (skipBlanks rest).isEmpty then some value else none
  | none => none

def ofBytes? (bytes : List UInt8) : Option Json := (Text.ofUtf8? bytes).bind parse?

end ApiTrial.Json
