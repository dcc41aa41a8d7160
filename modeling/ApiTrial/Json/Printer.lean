import ApiTrial.Decimal.Shortest
import ApiTrial.Json.Basic

/-!
JSON text without spaces. Only quotes, backslashes and control characters are escaped. A number
that is not an integer shows the fewest digits that read back: with a point up to 16 places before
it and 5 after it, and with an exponent beyond.
-/
namespace ApiTrial.Json

/-- A lower-case hexadecimal digit. -/
def hexDigit (n : Nat) : Char := Nat.digitChar n

/-- The characters that stand for `c` in a JSON string. -/
def escapeChar (c : Char) : List Char :=
  if c = '\x22' then ['\\', '\x22']
  else if c = '\\' then ['\\', '\\']
  else if c = '\x08' then ['\\', 'b']
  else if c = '\t' then ['\\', 't']
  else if c = '\n' then ['\\', 'n']
  else if c = '\x0c' then ['\\', 'f']
  else if c = '\r' then ['\\', 'r']
  else if c.toNat < 0x20 then
    ['\\', 'u', '0', '0', hexDigit (c.toNat / 16), hexDigit (c.toNat % 16)]
  else [c]

/-- A text as a JSON string. -/
def writeString (text : String) : List Char :=
  '\x22' :: text.toList.flatMap escapeChar ++ ['\x22']

def writeNat (n : Nat) : List Char := Nat.toDigits 10 n

/-- Decimal digits of an integer, after its sign. -/
def writeInt (i : Int) : List Char :=
  if i < 0 then '-' :: writeNat i.natAbs else writeNat i.natAbs

/-- The digits of a number with a point `order + 1` places after the first of them. -/
def writePositional (digits : List Char) (order : Int) : List Char :=
  if order < 0 then
    ['0', '.'] ++ List.replicate (-order - 1).toNat '0' ++ digits
  else
    let whole := order.toNat + 1
    let fraction := digits.drop whole
    digits.take whole ++ List.replicate (whole - digits.length) '0' ++ ['.'] ++
      (if fraction.isEmpty then ['0'] else fraction)

/-- The digits of a number with a point after the first of them, and an exponent. -/
def writeScientific (digits : List Char) (order : Int) : List Char :=
  let fraction := digits.drop 1
  digits.take 1 ++ (if fraction.isEmpty then [] else '.' :: fraction) ++
    ['e', if order < 0 then '-' else '+'] ++ writeNat order.natAbs

/-- The least order that is written with a point alone. -/
def leastPositional : Int := -5

/-- The greatest order that is written with a point alone. -/
def greatestPositional : Int := 15

/-- A number of 53 binary places. -/
def writeFloat (x : Binary64) : List Char :=
  let sign := if x.negative then ['-'] else []
  if x.isZero then sign ++ ['0', '.', '0'] else
  let (digits, exponent) := x.shortest
  let all := writeNat digits
  let order := exponent + (all.length : Int) - 1
  let kept := (all.reverse.dropWhile (· == '0')).reverse
  sign ++ (if leastPositional ≤ order ∧ order ≤ greatestPositional
    then writePositional kept order else writeScientific kept order)

mutual

def write : Json → List Char
  | null => ['n', 'u', 'l', 'l']
  | bool true => ['t', 'r', 'u', 'e']
  | bool false => ['f', 'a', 'l', 's', 'e']
  | int i => writeInt i
  | float x => writeFloat x
  | str text => writeString text
  | arr items => '[' :: writeItems items ++ [']']
  | obj members => '\x7b' :: writeMembers members ++ ['\x7d']

def writeItems : List Json → List Char
  | [] => []
  | [item] => write item
  | item :: rest => write item ++ ',' :: writeItems rest

def writeMembers : List (String × Json) → List Char
  | [] => []
  | [(key, value)] => writeString key ++ ':' :: write value
  | (key, value) :: rest => writeString key ++ ':' :: write value ++ ',' :: writeMembers rest

end

/-- The text of a value. -/
def render (value : Json) : String := String.ofList (write value)

/-- The text of a value where it is spliced into another text: a string stands for itself. -/
def splice : Json → String
  | str text => text
  | value => value.render

end ApiTrial.Json
