/-!
A place in a text: what is left of it, and the line, column and index reached.
-/
namespace ApiTrial.Yaml

/-- What is left of a text, and where that begins. -/
structure Place where
  rest : List Char
  line : Nat
  column : Nat
  index : Nat

/-- A character ends a line. -/
def isBreak (c : Char) : Bool :=
  c == '\n' || c == '\r' || c == '\u0085' || c == '\u2028' || c == '\u2029'

/-- A space or a tab. -/
def isGap (c : Char) : Bool := c == ' ' || c == '\t'

/-- A space, a tab or a line end. -/
def isSpacing (c : Char) : Bool := isGap c || isBreak c

/-- Letters, digits, `_` and `-`, which names are made of. -/
def isNameChar (c : Char) : Bool := c.isAlphanum || c == '_' || c == '-'

/-- A character may stand in a document. -/
def isPrintable (c : Char) : Bool :=
  c == '\t' || c == '\n' || c == '\r' || (' ' ≤ c && c ≤ '~') || c == '\u0085' ||
    ('\u00a0' ≤ c && c ≠ '\ufffe' && c ≠ '\uffff')

namespace Place

def start (text : List Char) : Place := ⟨text, 0, 0, 0⟩

def head? (p : Place) : Option Char := p.rest.head?

/-- The character `n` places further on. -/
def at? (p : Place) (n : Nat) : Option Char := p.rest[n]?

/-- A given character is here. -/
def sees (p : Place) (c : Char) : Bool := p.head? == some c

/-- A character of a class is here. -/
def is (p : Place) (test : Char → Bool) : Bool := p.head?.any test

/-- A character of a class is `n` places further on, or the text ends before it. -/
def endsAt (p : Place) (n : Nat) (test : Char → Bool) : Bool := (p.at? n).all test

/-- The place after the character here, which ends no line. -/
def next (p : Place) : Place :=
  match p.rest with
  | [] => p
  | _ :: rest => ⟨rest, p.line, p.column + 1, p.index + 1⟩

/-- The place after `n` characters that end no line. -/
def skip : Nat → Place → Place
  | 0, p => p
  | n + 1, p => skip n p.next

/-- The place after the characters of a class, which end no line. -/
def skipWhile (p : Place) (test : Char → Bool) : Place :=
  skip (p.rest.takeWhile test).length p

/-- The characters of a class that are here, which end no line, and the place after them. -/
def takeWhile (p : Place) (test : Char → Bool) : List Char × Place :=
  let taken := p.rest.takeWhile test
  (taken, skip taken.length p)

/-- The line end here as it is kept in a text, and the start of the next line. -/
def nextLine (p : Place) : List Char × Place :=
  match p.rest with
  | '\r' :: '\n' :: rest => (['\n'], ⟨rest, p.line + 1, 0, p.index + 2⟩)
  | c :: rest =>
    if c == '\n' || c == '\r' || c == '\u0085' then (['\n'], ⟨rest, p.line + 1, 0, p.index + 1⟩)
    else if isBreak c then ([c], ⟨rest, p.line + 1, 0, p.index + 1⟩)
    else ([], p)
  | [] => ([], p)

/-- Three equal characters at the start of a line, followed by spacing or the end. -/
def seesMarker (p : Place) (c : Char) : Bool :=
  p.column == 0 && p.at? 0 == some c && p.at? 1 == some c && p.at? 2 == some c &&
    p.endsAt 3 isSpacing

/-- A document marker is here. -/
def seesDocumentMarker (p : Place) : Bool := p.seesMarker '-' || p.seesMarker '.'

end Place

end ApiTrial.Yaml
