import ApiTrial.Document.Data
import ApiTrial.Toml.Moment

/-!
Keys, strings and numbers of configuration texts.
-/
namespace ApiTrial.Toml

/-- A character that may stand in a text: no control character but the tab. -/
def isShown (c : Char) : Bool := c == '\t' || (32 ≤ c.toNat && c.toNat != 127)

/-- A blank on a line. -/
def isSpace (c : Char) : Bool := c == ' ' || c == '\t'

/-- The end of a line at the head of a text, taken away. -/
def lineEnd? : List Char → Option (List Char)
  | '\n' :: rest => some rest
  | '\r' :: '\n' :: rest => some rest
  | _ => none

def skipSpaces (text : List Char) : List Char := text.dropWhile isSpace

/-- The value of hexadecimal digits. -/
def hexValue? (digits : List Char) : Option Nat :=
  digits.foldlM (fun n c => do return n * 16 + (← Json.hexValue? c)) 0

/-- The character of a code point. -/
def character? (n : Nat) : Option Char :=
  if h : n.isValidChar then some (Char.ofNatAux n h) else none

/-- The character that an escape stands for, and how many characters of the text it takes behind the
backslash. -/
def escaped? : List Char → Option (Char × Nat)
  | [] => none
  | c :: rest =>
    if c = 'b' then some ('\x08', 1)
    else if c = 't' then some ('\t', 1)
    else if c = 'n' then some ('\n', 1)
    else if c = 'f' then some ('\x0c', 1)
    else if c = 'r' then some ('\r', 1)
    else if c = '\x22' ∨ c = '\\' then some (c, 1)
    else if c = 'u' ∨ c = 'U' then
      let count := if c = 'u' then 4 else 8
      let digits := rest.take count
      if digits.length = count then
        ((hexValue? digits).bind character?).map fun d => (d, count + 1)
      else none
    else none

/-- The rest of a string between single marks on one line. With `raw` there are no escapes. `skip`
characters belong to an escape before. -/
def readLine (quote : Char) (raw : Bool) (acc : List Char) :
    (skip : Nat) → List Char → Option (String × List Char)
  | _, [] => none
  | skip + 1, _ :: rest => readLine quote raw acc skip rest
  | 0, c :: rest =>
    if c = quote then some (String.ofList acc.reverse, rest)
    else if !isShown c then none
    else if c = '\\' ∧ !raw then
      match escaped? rest with
      | some (d, count) => readLine quote raw (d :: acc) count rest
      | none => none
    else readLine quote raw (c :: acc) 0 rest

/-- How many characters at the head of a text are a given one. -/
def runLength (c : Char) (text : List Char) : Nat := (text.takeWhile (· == c)).length

/-- How many characters at the head of a text are blanks and line ends. -/
def blankRun : List Char → Nat
  | '\r' :: '\n' :: rest => blankRun rest + 2
  | c :: rest => if isSpace c || c == '\n' then blankRun rest + 1 else 0
  | [] => 0

/-- The blanks and line ends behind a backslash at the end of a line, if it stands there. -/
def continuation? (text : List Char) : Option Nat :=
  if (lineEnd? (skipSpaces text)).isSome then some (blankRun text) else none

/-- The rest of a string between threefold marks. One or two marks in a row are part of it, also in
front of the closing ones. -/
def readBlock (quote : Char) (raw : Bool) (acc : List Char) :
    (skip : Nat) → List Char → Option (String × List Char)
  | _, [] => none
  | skip + 1, _ :: rest => readBlock quote raw acc skip rest
  | 0, c :: rest =>
    if c = quote then
      let run := min 5 (runLength quote (c :: rest))
      if run < 3 then readBlock quote raw (c :: acc) 0 rest
      else
        some (String.ofList (acc.reverse ++ List.replicate (run - 3) quote),
          (c :: rest).drop run)
    else if c = '\\' ∧ !raw then
      match continuation? rest with
      | some count => readBlock quote raw acc count rest
      | none =>
        match escaped? rest with
        | some (d, count) => readBlock quote raw (d :: acc) count rest
        | none => none
    else if c = '\n' then readBlock quote raw ('\n' :: acc) 0 rest
    else if c = '\r' then
      match rest with
      | '\n' :: _ => readBlock quote raw ('\n' :: acc) 1 rest
      | _ => none
    else if isShown c then readBlock quote raw (c :: acc) 0 rest
    else none

/-- A string on one line behind its opening mark. -/
def readLineString (text : List Char) : Option (String × List Char) :=
  match text with
  | c :: rest => if c = '\x22' ∨ c = '\x27' then readLine c (c == '\x27') [] 0 rest else none
  | [] => none

/-- A string of any kind. A line end right behind threefold marks does not count. -/
def readString (text : List Char) : Option (String × List Char) :=
  match text with
  | a :: b :: c :: rest =>
    if a = b ∧ b = c ∧ (a = '\x22' ∨ a = '\x27') then
      readBlock a (a == '\x27') [] 0 ((lineEnd? rest).getD rest)
    else readLineString text
  | _ => readLineString text

def isBareKeyChar (c : Char) : Bool := c.isAlphanum || c == '_' || c == '-'

def readKeyPart (text : List Char) : Option (String × List Char) :=
  let bare := text.takeWhile isBareKeyChar
  if bare.isEmpty then readLineString text
  else some (String.ofList bare, text.drop bare.length)

/-- A key of parts between points, with blanks around it; at most `most` parts. -/
def readKey : (most : Nat) → List Char → Option (List String × List Char)
  | 0, _ => none
  | most + 1, text => do
    let (part, text) ← readKeyPart (skipSpaces text)
    match skipSpaces text with
    | '.' :: rest =>
      let (parts, rest) ← readKey most rest
      return (part :: parts, rest)
    | rest => return ([part], rest)

/-- How deep values and keys may nest. -/
def nestingLimit : Nat := 79

/-- Digits with single underscores between them; nothing else may be left. -/
def plainDigits? (isDigit : Char → Bool) : List Char → Option (List Char)
  | [] => none
  | [c] => if isDigit c then some [c] else none
  | c :: '_' :: rest => if isDigit c then (plainDigits? isDigit rest).map (c :: ·) else none
  | c :: rest => if isDigit c then (plainDigits? isDigit rest).map (c :: ·) else none

/-- The value of digits of a base. -/
def baseValue (base : Nat) (digits : List Char) : Nat :=
  digits.foldl (fun n c => n * base + (Json.hexValue? c).getD 0) 0

/-- A whole number of 64 bits. -/
def wholeNumber? (negative : Bool) (n : Nat) : Option Data :=
  if negative then (if n ≤ Nat.pow 2 63 then some (.int (-n)) else none)
  else if n < Nat.pow 2 63 then some (.int n) else none

/-- The digits of the whole part of a number, without needless zeros. -/
def wholeDigits? (text : List Char) : Option (List Char) := do
  let digits ← plainDigits? Char.isDigit text
  if digits.head? == some '0' && 1 < text.length then none else return digits

/-- The number that digits with or without a sign stand for. -/
def signedDigits? (text : List Char) : Option Int := do
  let (negative, text) : Bool × List Char := match text with
    | '-' :: text => (true, text)
    | '+' :: text => (false, text)
    | text => (false, text)
  let n : Int := Json.digitsValue 0 (← plainDigits? Char.isDigit text)
  return if negative then -n else n

/-- A number with a fraction or an exponent. Above every finite number there is none, and below
every one it is no finite number. -/
def realNumber? (negative : Bool) (whole : List Char) (fraction exponent : Option (List Char)) :
    Option Data := do
  let whole ← wholeDigits? whole
  let fraction ← match fraction with
    | some text => plainDigits? Char.isDigit text
    | none => pure []
  let power ← match exponent with
    | some text => signedDigits? text
    | none => pure 0
  let digits := Json.digitsValue 0 (whole ++ fraction)
  match Binary64.ofDecimal negative digits (power - fraction.length) with
  | some x => return .real (some x)
  | none => if negative then return .real none else none

/-- The parts of a text before and behind the first character of a kind. -/
def cutAt (isMark : Char → Bool) (text : List Char) : List Char × Option (List Char) :=
  match text.span fun c => !isMark c with
  | (before, _ :: behind) => (before, some behind)
  | (before, []) => (before, none)

/-- The number that the characters of a token stand for. -/
def decimal? (negative : Bool) (token : List Char) : Option Data :=
  if token == "inf".toList || token == "nan".toList then some (.real none)
  else
    let (mantissa, exponent) := cutAt (fun c => c == 'e' || c == 'E') token
    let (whole, fraction) := cutAt (· == '.') mantissa
    if fraction.isNone && exponent.isNone then
      (wholeDigits? whole).bind fun digits => wholeNumber? negative (Json.digitsValue 0 digits)
    else realNumber? negative whole fraction exponent

def isDigitOf (base : Nat) (c : Char) : Bool :=
  match Json.hexValue? c with
  | some n => n < base
  | none => false

/-- The number that the characters of a token stand for, with its sign or its base. -/
def number? (token : List Char) : Option Data :=
  let based (base : Nat) (digits : List Char) : Option Data :=
    (plainDigits? (isDigitOf base) digits).bind fun digits =>
      wholeNumber? false (baseValue base digits)
  match token with
  | '0' :: 'x' :: digits => based 16 digits
  | '0' :: 'o' :: digits => based 8 digits
  | '0' :: 'b' :: digits => based 2 digits
  | '+' :: token => decimal? false token
  | '-' :: token => decimal? true token
  | token => decimal? false token

def isTokenChar (c : Char) : Bool :=
  c.isAlphanum || c == '_' || c == '+' || c == '-' || c == '.' || c == ':'

/-- The key under which a date or a time is kept. -/
def momentKey : String := "$__toml_private_datetime"

/-- The data of a date or a time: its written form under a key of its own. -/
def moment (text : String) : Data := .map [(.text momentKey, .text text)]

/-- A date or a time or a number. -/
def readNumberOrMoment (text : List Char) : Option (Data × List Char) :=
  let token := text.takeWhile isTokenChar
  match readMoment text with
  | some (written, rest) => some (moment written, rest)
  | none => (number? token).map fun data => (data, text.drop token.length)

/-- A value that holds no other values. -/
def readScalar (text : List Char) : Option (Data × List Char) :=
  match text with
  | [] => none
  | c :: _ =>
    if c = '\x22' ∨ c = '\x27' then (readString text).map fun (s, rest) => (.text s, rest)
    else
      let token := text.takeWhile isTokenChar
      if token == "true".toList then some (.bool true, text.drop 4)
      else if token == "false".toList then some (.bool false, text.drop 5)
      else readNumberOrMoment text

end ApiTrial.Toml
