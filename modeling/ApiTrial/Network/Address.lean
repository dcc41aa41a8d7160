import ApiTrial.Text.Ascii

/-!
Absolute addresses in normal form: scheme and host in lower case, the usual port left out, dot
segments taken away, and characters that may not stand in an address written as percent escapes.
Hosts are taken as ASCII; other letters in a host make a text no address.
-/
namespace ApiTrial

/-- An address in normal form. The host carries the port, and `rest` is the text behind it. -/
structure Address where
  scheme : String
  host : Option String
  rest : String
  deriving DecidableEq, Repr

namespace Address

def text (address : Address) : String :=
  address.scheme ++ ":" ++ (address.host.map ("//" ++ ·)).getD "" ++ address.rest

/-- The schemes under which requests can be sent, with their usual ports. -/
def webSchemes : List (String × Nat) := [("http", 80), ("https", 443)]

/-- Requests can be sent to the address. -/
def isWeb (address : Address) : Bool := webSchemes.any fun s => s.1 == address.scheme

/-- The schemes whose addresses have a host and a path of segments, with their usual ports. -/
def hostedSchemes : List (String × Nat) :=
  webSchemes ++ [("ws", 80), ("wss", 443), ("ftp", 21)]

def isSchemeChar (c : Char) : Bool := c.isAlphanum || c == '+' || c == '-' || c == '.'

/-- The scheme in front of the first colon, and what follows the colon. -/
def splitScheme (text : List Char) : Option (String × List Char) :=
  match text.span (· != ':') with
  | (c :: scheme, ':' :: rest) =>
    if c.isAlpha && scheme.all isSchemeChar then
      some (Text.lowerAscii (String.ofList (c :: scheme)), rest)
    else none
  | _ => none

/-- Two hexadecimal digits of a byte. -/
def hexPair (b : UInt8) : List Char :=
  let digit (n : Nat) : Char := (Nat.digitChar n).toUpper
  [digit (b.toNat / 16), digit (b.toNat % 16)]

/-- A character as percent escapes of its bytes. -/
def escapes (c : Char) : List Char :=
  (String.singleton c).toUTF8.toList.flatMap fun b => '%' :: hexPair b

/-- A character that is always escaped: a control character or one beyond ASCII. -/
def isControl (c : Char) : Bool := c.toNat < 32 || 126 < c.toNat

/-- A text with control characters and those of `marks` escaped. -/
def escape (marks : List Char) (text : List Char) : List Char :=
  text.flatMap fun c => if isControl c || marks.contains c then escapes c else [c]

/-- What is escaped in the path of an address. -/
def pathMarks : List Char := [' ', '\x22', '#', '<', '>', '?', '\x60', '\x7b', '\x7d']

/-- What is escaped in the query of an address. -/
def queryMarks : List Char := [' ', '\x22', '#', '<', '>', '\x27']

/-- What is escaped in the fragment of an address. -/
def fragmentMarks : List Char := [' ', '\x22', '<', '>', '\x60']

/-- A slash of either direction. -/
def isSlash (c : Char) : Bool := c == '/' || c == '\\'

/-- The parts of a text between slashes. -/
def segments : List Char → List (List Char)
  | [] => [[]]
  | c :: rest =>
    if isSlash c then [] :: segments rest
    else match segments rest with
    | part :: parts => (c :: part) :: parts
    | [] => [[c]]

/-- The dots that a segment of dots and their escapes stands for. -/
def dots? (segment : List Char) : Option Nat :=
  let text := Text.lowerAscii (String.ofList segment)
  if [".", "%2e"].contains text then some 1
  else if ["..", ".%2e", "%2e.", "%2e%2e"].contains text then some 2
  else none

/-- The segments of a path without dot segments; `done` holds those before, last first. A dot
segment at the end leaves an empty one. -/
def withoutDots (done : List (List Char)) : List (List Char) → List (List Char)
  | [] => done.reverse
  | segment :: rest =>
    let atEnd := rest.isEmpty
    match dots? segment with
    | some 1 => withoutDots (if atEnd then [] :: done else done) rest
    | some _ => withoutDots (if atEnd then [] :: done.drop 1 else done.drop 1) rest
    | none => withoutDots (escape pathMarks segment :: done) rest

/-- A path in normal form, which begins with a slash. -/
def path (text : List Char) : List Char :=
  let text := match text with
    | c :: rest => if isSlash c then rest else text
    | [] => []
  (withoutDots [] (segments text)).flatMap fun segment => '/' :: segment

/-- The query and the fragment, with their marks. -/
def queryAndFragment (text : List Char) : List Char :=
  let (query, fragment) := text.span (· != '#')
  (match query with
    | '?' :: query => '?' :: escape queryMarks query
    | _ => []) ++
  match fragment with
    | '#' :: fragment => '#' :: escape fragmentMarks fragment
    | _ => []

/-- What follows the last `@`, or the whole text. -/
def behindUser (authority : List Char) : List Char :=
  (authority.reverse.takeWhile (· != '@')).reverse

def isForbiddenInHost (c : Char) : Bool :=
  isControl c || [' ', '#', '/', ':', '<', '>', '?', '@', '[', '\\', ']', '^', '|', '%'].contains c

/-- A host between brackets is written in hexadecimal digits, colons and dots. -/
def isBracketed (host : List Char) : Bool :=
  host.head? == some '[' && host.getLast? == some ']' && 2 < host.length &&
    (host.drop 1).dropLast.all fun c =>
      c.isDigit || c == ':' || c == '.' || ('a' ≤ c.toLower && c.toLower ≤ 'f')

/-- The host and port of an authority, without a port that is the usual one. -/
def hostAndPort? (usual : Nat) (authority : List Char) : Option String := do
  let authority := behindUser authority
  let afterBracket := (authority.reverse.takeWhile (· != ']')).reverse
  let port := afterBracket.dropWhile (· != ':')
  let host := authority.take (authority.length - port.length)
  let digits := port.drop 1
  let number := digits.foldl (fun n c => n * 10 + (c.toNat - 48)) 0
  if host.isEmpty || !(host.all (fun c => !isForbiddenInHost c) || isBracketed host) then none
  else if !digits.all Char.isDigit || 65535 < number then none
  else
    let name := Text.lowerAscii (String.ofList host)
    return if digits.isEmpty || number == usual then name else s!"{name}:{number}"

/-- The address of a scheme whose addresses have a host. Slashes in front do not count. -/
def ofHosted? (scheme : String) (usual : Nat) (text : List Char) : Option Address := do
  let (authority, rest) := (text.dropWhile isSlash).span fun c =>
    !(isSlash c || c == '?' || c == '#')
  let host ← hostAndPort? usual authority
  let (segments, tail) := rest.span fun c => !(c == '?' || c == '#')
  return ⟨scheme, some host, String.ofList (path segments ++ queryAndFragment tail)⟩

/-- The address of any other scheme, which is kept as it is written. -/
def ofOther (scheme : String) (text : List Char) : Address :=
  match text with
  | '/' :: '/' :: text =>
    let (authority, rest) := text.span fun c => !(c == '/' || c == '?' || c == '#')
    let host := if authority.isEmpty then none else some (String.ofList (escape [] authority))
    let slashes := if authority.isEmpty then "//" else ""
    ⟨scheme, host, slashes ++ String.ofList (escape [] rest)⟩
  | text => ⟨scheme, none, String.ofList (escape [] text)⟩

/-- A character that does not count at the ends of an address. -/
def isMargin (c : Char) : Bool := c.toNat ≤ 32

/-- The text of an address without its margins and line breaks. -/
def trimmed (text : List Char) : List Char :=
  let inner := ((text.dropWhile isMargin).reverse.dropWhile isMargin).reverse
  inner.filter fun c => !(c == '\t' || c == '\n' || c == '\r')

/-- The address of a text that is absolute. -/
def parse? (text : String) : Option Address := do
  let (scheme, rest) ← splitScheme (trimmed text.toList)
  match hostedSchemes.find? fun s => s.1 == scheme with
  | some (_, usual) => ofHosted? scheme usual rest
  | none => return ofOther scheme rest

/-- A text without a scheme is no address. -/
theorem parse?_eq_none {text : String} (h : splitScheme (trimmed text.toList) = none) :
    parse? text = none := by
  simp [parse?, h]

end Address

end ApiTrial
