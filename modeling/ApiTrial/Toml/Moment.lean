import ApiTrial.Json.Parser

/-!
Dates and times in configuration texts, and their usual written form: a `T` between date and time,
no zeros at the end of a fraction, and offsets as `Z` or with a sign.
-/
namespace ApiTrial.Toml

/-- A number of exactly so many digits, with the text behind it. -/
def readDigits (count : Nat) (text : List Char) : Option (Nat × List Char) :=
  let digits := text.take count
  if digits.length == count && digits.all Char.isDigit then
    some (Json.digitsValue 0 digits, text.drop count)
  else none

/-- Two digits within limits, with the text behind them. -/
def readPair (least most : Nat) (text : List Char) : Option (Nat × List Char) := do
  let (n, text) ← readDigits 2 text
  if least ≤ n ∧ n ≤ most then return (n, text) else none

/-- The text behind a character that has to be there. -/
def readMark (mark : Char) : List Char → Option (List Char)
  | [] => none
  | c :: text => if c = mark then some text else none

/-- A number in so many digits at least. -/
def padded (width n : Nat) : String :=
  let digits := Nat.toDigits 10 n
  String.ofList (List.replicate (width - digits.length) '0' ++ digits)

def isLeapYear (year : Nat) : Bool := year % 4 == 0 && (year % 100 != 0 || year % 400 == 0)

def daysOf (year month : Nat) : Nat :=
  if month = 2 then (if isLeapYear year then 29 else 28)
  else if [4, 6, 9, 11].contains month then 30
  else 31

def readDate (text : List Char) : Option (String × List Char) := do
  let (year, text) ← readDigits 4 text
  let (month, text) ← readPair 1 12 (← readMark '-' text)
  let (day, text) ← readPair 1 31 (← readMark '-' text)
  if daysOf year month < day then none
  return (s!"{padded 4 year}-{padded 2 month}-{padded 2 day}", text)

/-- The digits of a fraction of a second that count. -/
def fractionDigits : Nat := 9

/-- The fraction of a second, with the text behind it. -/
def readFraction (text : List Char) : Option (String × List Char) :=
  match text with
  | '.' :: text =>
    let digits := text.takeWhile Char.isDigit
    let kept := ((digits.take fractionDigits).reverse.dropWhile (· == '0')).reverse
    let shown := if kept.isEmpty then "" else "." ++ String.ofList kept
    if digits.isEmpty then none else some (shown, text.drop digits.length)
  | text => some ("", text)

def readTime (text : List Char) : Option (String × List Char) := do
  let (hour, text) ← readPair 0 23 text
  let (minute, text) ← readPair 0 59 (← readMark ':' text)
  let (second, text) ← readPair 0 60 (← readMark ':' text)
  let (fraction, text) ← readFraction text
  return (s!"{padded 2 hour}:{padded 2 minute}:{padded 2 second}{fraction}", text)

/-- An offset from universal time, if there is one, with the text behind it. -/
def readOffset (text : List Char) : Option (String × List Char) :=
  match text with
  | [] => some ("", [])
  | c :: rest =>
    if c = 'Z' ∨ c = 'z' then some ("Z", rest)
    else if c = '+' ∨ c = '-' then do
      let (hour, rest) ← readPair 0 23 rest
      let (minute, rest) ← readPair 0 59 (← readMark ':' rest)
      let sign := if c = '-' ∧ (hour, minute) ≠ (0, 0) then "-" else "+"
      return (s!"{sign}{padded 2 hour}:{padded 2 minute}", rest)
    else some ("", text)

/-- A character stands between a date and a time. A blank does so only in front of a digit. -/
def joinsTime : List Char → Bool
  | 'T' :: _ => true
  | 't' :: _ => true
  | ' ' :: c :: _ => c.isDigit
  | _ => false

/-- A date, a time, or a date and a time with or without an offset, with the text behind it. -/
def readMoment (text : List Char) : Option (String × List Char) :=
  match readDigits 4 text with
  | some (_, '-' :: _) => do
    let (date, text) ← readDate text
    if joinsTime text then
      let (time, text) ← readTime (text.drop 1)
      let (offset, text) ← readOffset text
      return (s!"{date}T{time}{offset}", text)
    else return (date, text)
  | _ => readTime text

end ApiTrial.Toml
