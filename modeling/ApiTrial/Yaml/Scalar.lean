import ApiTrial.Json.Parser
import ApiTrial.Yaml.Fold

/-!
The text of scalars: plain, between quotes, and in indented blocks. A reader gives the text and the
place behind it, or refuses.
-/
namespace ApiTrial.Yaml

inductive Style where
  | plain | single | double | literal | folded
  deriving DecidableEq, Repr

/-- A plain scalar ends here, in a flow collection or not. -/
def endsPlain (flow : Bool) (p : Place) : Bool :=
  (p.sees ':' && p.endsAt 1 isSpacing) || (flow && p.is fun c => ",[]\x7b\x7d".toList.contains c)

/-- A colon that a flow collection does not allow in a plain scalar is here. -/
def seesStrayColon (flow : Bool) (p : Place) : Bool :=
  flow && p.sees ':' && (p.at? 1).any fun c => ",?[]\x7b\x7d".toList.contains c

/-- The characters of a plain scalar up to spacing or its end. -/
def readPlainWord (flow : Bool) : (fuel : Nat) → Folding → Place → Option (Folding × Place)
  | 0, f, p => some (f, p)
  | fuel + 1, f, p =>
    match p.head? with
    | none => some (f, p)
    | some c =>
      if isSpacing c then some (f, p)
      else if seesStrayColon flow p then none
      else if endsPlain flow p then some (f, p)
      else readPlainWord flow fuel (f.settle.push c) p.next

/-- A plain scalar whose lines are indented by at least `indent` outside of flow collections. -/
def readPlain (flow : Bool) (indent : Int) : (fuel : Nat) → Folding → Place →
    Option (Folding × Place)
  | 0, f, p => some (f, p)
  | fuel + 1, f, p =>
    if p.seesDocumentMarker || p.sees '#' then some (f, p) else
    match readPlainWord flow p.rest.length f p with
    | none => none
    | some (f, q) =>
      if !q.is isSpacing then some (f, q) else
      match Folding.readSpacing (fun column => decide (indent ≤ column)) q.rest.length f q with
      | none => none
      | some (f, q) =>
        if !flow && decide ((q.column : Int) < indent) then some (f, q)
        else readPlain flow indent fuel f q

/-- The character of a one-letter escape, or the number of hexadecimal digits that follow. -/
def escape? (c : Char) : Option (Char ⊕ Nat) :=
  match c with
  | '0' => some (.inl '\x00')
  | 'a' => some (.inl '\x07')
  | 'b' => some (.inl '\x08')
  | 't' => some (.inl '\t')
  | '\t' => some (.inl '\t')
  | 'n' => some (.inl '\n')
  | 'v' => some (.inl '\x0b')
  | 'f' => some (.inl '\x0c')
  | 'r' => some (.inl '\r')
  | 'e' => some (.inl '\x1b')
  | ' ' => some (.inl ' ')
  | '\x22' => some (.inl '\x22')
  | '/' => some (.inl '/')
  | '\\' => some (.inl '\\')
  | 'N' => some (.inl '\u0085')
  | '_' => some (.inl '\u00a0')
  | 'L' => some (.inl '\u2028')
  | 'P' => some (.inl '\u2029')
  | 'x' => some (.inr 2)
  | 'u' => some (.inr 4)
  | 'U' => some (.inr 8)
  | _ => none

def hexValue (digits : List Char) : Option Nat :=
  digits.foldlM (fun n c => (Json.hexValue? c).map (n * 16 + ·)) 0

/-- A number is the code of a character. -/
def isCharCode (n : Nat) : Bool :=
  decide (n < 0xD800) || (decide (0xDFFF < n) && decide (n < 0x110000))

/-- The character of an escape whose backslash is here. -/
def readEscape (p : Place) : Option (Char × Place) :=
  match (p.at? 1).bind escape? with
  | none => none
  | some (.inl c) => some (c, p.skip 2)
  | some (.inr n) =>
    let digits := (p.rest.drop 2).take n
    if digits.length < n then none else
    match hexValue digits with
    | some code => if isCharCode code then some (Char.ofNat code, p.skip (2 + n)) else none
    | none => none

/-- The characters between quotes up to spacing or the closing quote. -/
def readQuotedWord (quote : Char) : (fuel : Nat) → Folding → Place → Option (Folding × Place)
  | 0, f, p => some (f, p)
  | fuel + 1, f, p =>
    match p.head? with
    | none => some (f, p)
    | some c =>
      if isSpacing c then some (f, p)
      else if c == '\x27' && quote == '\x27' && p.at? 1 == some '\x27' then
        readQuotedWord quote fuel (f.push '\x27') (p.skip 2)
      else if c == quote then some (f, p)
      else if c == '\\' && quote == '\x22' then
        if (p.at? 1).any isBreak then
          some ({ f with broken := true }, p.next.nextLine.2)
        else
          match readEscape p with
          | some (c, q) => readQuotedWord quote fuel (f.push c) q
          | none => none
      else readQuotedWord quote fuel (f.push c) p.next

/-- A quoted scalar from behind its opening quote to behind its closing one. -/
def readQuoted (quote : Char) : (fuel : Nat) → Folding → Place → Option (Folding × Place)
  | 0, _, _ => none
  | fuel + 1, f, p =>
    if p.seesDocumentMarker || p.rest.isEmpty then none else
    match readQuotedWord quote p.rest.length f p with
    | none => none
    | some (f, q) =>
      if q.sees quote then some (f, q.next) else
      match Folding.readSpacing (fun _ => true) q.rest.length f q with
      | none => none
      | some (f, q) => readQuoted quote fuel f.settle q

/-- What is done with the line ends after a block. -/
inductive Chomping where
  | strip | clip | keep
  deriving DecidableEq, Repr

/-- The chomping that a character asks for. -/
def chomping? (c : Option Char) : Option Chomping :=
  if c == some '+' then some .keep else if c == some '-' then some .strip else none

/-- The indentation that a character asks for; zero is refused. -/
def increment? (p : Place) : Option (Nat × Place) :=
  match p.head? with
  | some c =>
    if c.isDigit then (if c == '0' then none else some (c.toNat - 48, p.next)) else some (0, p)
  | none => some (0, p)

/-- The header of a block from behind its mark: chomping and indentation in either order. -/
def readBlockHeader (p : Place) : Option (Chomping × Nat × Place) :=
  match chomping? p.head? with
  | some chomping => (increment? p.next).map fun (n, q) => (chomping, n, q)
  | none =>
    match increment? p with
    | none => none
    | some (n, q) =>
      match if 0 < n then chomping? q.head? else none with
      | some chomping => some (chomping, n, q.next)
      | none => some (.clip, n, q)

/-- Blank lines before a line of a block. An indentation of 0 is not known yet; `widest` is the
widest one seen. -/
def readBlankLines (indent : Nat) : (fuel : Nat) → (widest : Nat) → (ends : List Char) → Place →
    Option (Nat × List Char × Place)
  | 0, widest, ends, p => some (widest, ends, p)
  | fuel + 1, widest, ends, p =>
    let room := if indent = 0 then p.rest.length else indent - p.column
    let p := p.skip ((p.rest.take room).takeWhile (· == ' ')).length
    let widest := max widest p.column
    if (indent = 0 || decide (p.column < indent)) && p.sees '\t' then none
    else if p.is isBreak then
      let (ending, q) := p.nextLine
      readBlankLines indent fuel widest (ends ++ ending) q
    else some (widest, ends, p)

/-- The lines of a block. `ending` is the end of the line before and `blank` the blank lines after
it; `led` tells whether the line before began with a gap. -/
def readBlockLines (folded : Bool) (indent : Nat) : (fuel : Nat) → (text ending blank : List Char) →
    (led : Bool) → Place → Option (List Char × List Char × List Char × Place)
  | 0, text, ending, blank, _, p => some (text, ending, blank, p)
  | fuel + 1, text, ending, blank, led, p =>
    if p.column ≠ indent ∨ p.rest.isEmpty then some (text, ending, blank, p) else
    let gap := p.is isGap
    let joint :=
      if folded && ending == ['\n'] && !led && !gap then (if blank.isEmpty then [' '] else [])
      else ending
    let (line, q) := p.takeWhile fun c => !isBreak c
    let (next, q) := q.nextLine
    match readBlankLines indent (q.rest.length + 1) 0 [] q with
    | none => none
    | some (_, blanks, q) =>
      readBlockLines folded indent fuel (text ++ joint ++ blank ++ line) next blanks gap q

/-- A block scalar from behind its mark, inside an indentation of `outer`. -/
def readBlock (folded : Bool) (outer : Int) (p : Place) : Option (String × Place) := do
  let (chomping, increment, p) ← readBlockHeader p
  let p := p.skipWhile isGap
  let p := if p.sees '#' then p.skipWhile fun c => !isBreak c else p
  if !p.endsAt 0 isBreak then none
  let p := p.nextLine.2
  let known := if increment = 0 then 0 else (max outer 0).toNat + increment
  let (widest, blank, p) ← readBlankLines known (p.rest.length + 1) 0 [] p
  let indent := if known = 0 then max (max widest (outer + 1).toNat) 1 else known
  let (text, ending, blank, p) ← readBlockLines folded indent p.rest.length [] [] blank false p
  let text := if chomping == .strip then text else text ++ ending
  let text := if chomping == .keep then text ++ blank else text
  return (String.ofList text, p)

end ApiTrial.Yaml
