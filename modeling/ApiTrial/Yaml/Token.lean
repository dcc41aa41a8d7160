import ApiTrial.Text.Utf8
import ApiTrial.Yaml.Scalar

/-!
The tokens of a document. Indentation opens and closes block collections, and a key that is only
seen to be one at its colon has its marks spliced in where it began.
-/
namespace ApiTrial.Yaml

inductive Token where
  | version (major minor : Nat)
  | tagShorthand (handle meaning : String)
  | documentStart
  | documentEnd
  | blockSequence
  | blockMapping
  | blockEnd
  | flowSequence
  | flowSequenceEnd
  | flowMapping
  | flowMappingEnd
  | blockEntry
  | flowEntry
  | key
  | value
  | alias (name : String)
  | anchor (name : String)
  | tag (handle suffix : String)
  | scalar (text : String) (style : Style)
  deriving DecidableEq, Repr, Inhabited

/-- A token that may turn out to begin a key: how many tokens precede it, and where it stands. -/
structure KeyMark where
  position : Nat
  needed : Bool
  line : Nat
  column : Nat
  index : Nat

/-- Reading in progress: the place, the open indentations, one possible key for each open flow
collection and the block around them, and the tokens so far. -/
structure Reading where
  place : Place
  indent : Int := -1
  outer : List Int := []
  keys : List (Option KeyMark) := [none]
  keyAllowed : Bool := true
  tokens : Array Token := #[]

namespace Reading

/-- A flow collection is open. -/
def inFlow (r : Reading) : Bool := decide (1 < r.keys.length)

def push (r : Reading) (token : Token) : Reading := { r with tokens := r.tokens.push token }

/-- The innermost possible key. -/
def keyMark? (r : Reading) : Option KeyMark := r.keys.head?.join

/-- Another innermost possible key. -/
def setKey (r : Reading) (mark : Option KeyMark) : Reading :=
  { r with keys := mark :: r.keys.drop 1 }

/-- No key can begin at the innermost mark any more; a needed one must not be lost. -/
def dropKey (r : Reading) : Option Reading :=
  if r.keyMark?.any KeyMark.needed then none else some (r.setKey none)

/-- A key may begin here. -/
def markKey (r : Reading) : Option Reading :=
  if !r.keyAllowed then some r else do
    let r ← r.dropKey
    return r.setKey (some {
      position := r.tokens.size
      needed := !r.inFlow && r.indent == r.place.column
      line := r.place.line, column := r.place.column, index := r.place.index })

/-- The longest key that needs no mark of its own. -/
def keyLimit : Nat := 1024

/-- The innermost key if the place is still on its line and near it. -/
def liveKey? (r : Reading) : Option (Option KeyMark) :=
  match r.keyMark? with
  | none => some none
  | some mark =>
    if mark.line < r.place.line || mark.index + keyLimit < r.place.index then
      if mark.needed then none else some none
    else some (some mark)

/-- Block collections that are indented further than `column` are closed. -/
def unroll (column : Int) : (open_ : List Int) → Reading → Reading
  | [], r => r
  | indent :: outer, r =>
    if column < r.indent then unroll column outer { r.push .blockEnd with indent, outer } else r

/-- The block collections that end before a column are closed. -/
def closeBlocks (r : Reading) (column : Int) : Reading :=
  if r.inFlow then r else unroll column r.outer r

/-- A block collection begins at a column if none does yet; its token goes to `position`. -/
def openBlock (r : Reading) (column : Nat) (position : Nat) (token : Token) : Reading :=
  if r.inFlow || decide ((column : Int) ≤ r.indent) then r
  else
    { r with
      indent := column
      outer := r.indent :: r.outer
      tokens := r.tokens.insertIdxIfInBounds position token }

def moveTo (r : Reading) (p : Place) : Reading := { r with place := p }

/-- Spacing and comments in front of a token are passed over. -/
def skipSpacing : (fuel : Nat) → Reading → Reading
  | 0, r => r
  | fuel + 1, r =>
    let p := r.place
    let p := if p.column == 0 && p.sees '\ufeff' then p.next else p
    -- Where a key may begin, a tab could be taken for indentation and is left to be refused.
    let p := p.skipWhile fun c => c == ' ' || ((r.inFlow || !r.keyAllowed) && c == '\t')
    let p := if p.sees '#' then p.skipWhile fun c => !isBreak c else p
    if p.is isBreak then
      skipSpacing fuel { r with place := p.nextLine.2, keyAllowed := r.keyAllowed || !r.inFlow }
    else r.moveTo p

/-- Digits of a version number. -/
def readVersionPart (p : Place) : Option (Nat × Place) :=
  let (digits, q) := p.takeWhile Char.isDigit
  if digits.isEmpty || 9 < digits.length then none
  else some (digits.foldl (fun n c => n * 10 + (c.toNat - 48)) 0, q)

/-- A tag handle: `!`, or a name between exclamation marks. -/
def readHandle (directive : Bool) (p : Place) : Option (List Char × Place) :=
  if !p.sees '!' then none else
  let (name, q) := p.next.takeWhile isNameChar
  if q.sees '!' then some ('!' :: name ++ ['!'], q.next)
  else if directive && !name.isEmpty then none
  else some ('!' :: name, q)

/-- A character of a tag that stands for itself. -/
def isTagChar (verbatim : Bool) (c : Char) : Bool :=
  isNameChar c || ";/?:@&=+$.!~*\x27()".toList.contains c || (verbatim && ",[]".toList.contains c)

/-- The bytes of a run of percent escapes. -/
def readPercents : (fuel : Nat) → Place → Option (List UInt8 × Place)
  | 0, p => some ([], p)
  | fuel + 1, p =>
    if !p.sees '%' then some ([], p) else do
      let high ← (p.at? 1).bind Json.hexValue?
      let low ← (p.at? 2).bind Json.hexValue?
      let (bytes, q) ← readPercents fuel (p.skip 3)
      return (UInt8.ofNat (high * 16 + low) :: bytes, q)

/-- The characters of a tag. -/
def readTagText (verbatim : Bool) : (fuel : Nat) → Place → Option (List Char × Place)
  | 0, p => some ([], p)
  | fuel + 1, p =>
    match p.head? with
    | none => some ([], p)
    | some c =>
      if c == '%' then do
        let (bytes, q) ← readPercents p.rest.length p
        let text ← Text.ofUtf8? bytes
        let (rest, q) ← readTagText verbatim fuel q
        return (text.toList ++ rest, q)
      else if isTagChar verbatim c then
        (readTagText verbatim fuel p.next).map fun (rest, q) => (c :: rest, q)
      else some ([], p)

/-- The rest of a line after a directive: spacing and a comment. -/
def endLine? (p : Place) : Option Place :=
  let p := p.skipWhile isGap
  let p := if p.sees '#' then p.skipWhile fun c => !isBreak c else p
  if p.endsAt 0 isBreak then some p.nextLine.2 else none

/-- A directive whose percent sign is here. -/
def readDirective (p : Place) : Option (Token × Place) := do
  let (name, p) := p.next.takeWhile isNameChar
  if name.isEmpty || !p.endsAt 0 isSpacing then none
  let p := p.skipWhile isGap
  if name == "YAML".toList then
    let (major, p) ← readVersionPart p
    if !p.sees '.' then none
    let (minor, p) ← readVersionPart p.next
    return (.version major minor, ← endLine? p)
  else if name == "TAG".toList then
    let (handle, p) ← readHandle true p
    if !p.is isGap then none
    let p := p.skipWhile isGap
    let (meaning, p) ← readTagText true p.rest.length p
    if meaning.isEmpty || !p.endsAt 0 isSpacing then none
    return (.tagShorthand (String.ofList handle) (String.ofList meaning), ← endLine? p)
  else none

/-- A tag whose exclamation mark is here. -/
def readTag (flow : Bool) (p : Place) : Option (Token × Place) := do
  let (token, p) ← if p.at? 1 == some '<' then do
      let (text, p) ← readTagText true p.rest.length (p.skip 2)
      if text.isEmpty || !p.sees '>' then none
      pure (Token.tag "" (String.ofList text), p.next)
    else do
      let (handle, p) ← readHandle false p
      let (text, p) ← readTagText false p.rest.length p
      if 1 < handle.length && handle.getLast? == some '!' then
        if text.isEmpty then none
        pure (Token.tag (String.ofList handle) (String.ofList text), p)
      else
        let suffix := handle.drop 1 ++ text
        if suffix.isEmpty then pure (Token.tag "" "!", p)
        else pure (Token.tag "!" (String.ofList suffix), p)
  if p.endsAt 0 isSpacing || (flow && p.sees ',') then return (token, p) else none

/-- The name of an anchor or alias whose mark is here. -/
def readName (p : Place) : Option (String × Place) :=
  let (name, q) := p.next.takeWhile isNameChar
  if name.isEmpty then none
  else if q.endsAt 0 (fun c => isSpacing c || "?:,]\x7d%@\x60".toList.contains c) then
    some (String.ofList name, q)
  else none

/-- A mark of one character. -/
def mark (r : Reading) (token : Token) : Reading := (r.push token).moveTo r.place.next

/-- A token that may begin a key, after which none may. -/
def atom (r : Reading) (read : Place → Option (Token × Place)) : Option Reading := do
  let r ← r.markKey
  let (token, p) ← read r.place
  return ({ r with keyAllowed := false }.push token).moveTo p

def openFlow (r : Reading) (token : Token) : Option Reading := do
  let r ← r.markKey
  return { r with keys := none :: r.keys, keyAllowed := true }.mark token

def closeFlow (r : Reading) (token : Token) : Option Reading := do
  let r ← r.dropKey
  let keys := if r.inFlow then r.keys.drop 1 else r.keys
  return { r with keys, keyAllowed := false }.mark token

/-- An item of a block sequence. -/
def blockItem (r : Reading) : Option Reading := do
  if !r.inFlow && !r.keyAllowed then none
  let r := r.openBlock r.place.column r.tokens.size .blockSequence
  let r ← r.dropKey
  return { r with keyAllowed := true }.mark .blockEntry

/-- A key with a mark of its own. -/
def markedKey (r : Reading) : Option Reading := do
  if !r.inFlow && !r.keyAllowed then none
  let r := r.openBlock r.place.column r.tokens.size .blockMapping
  let r ← r.dropKey
  return { r with keyAllowed := !r.inFlow }.mark .key

/-- A value, whose key may have begun earlier on the line. -/
def keyedValue (r : Reading) : Option Reading := do
  match ← r.liveKey? with
  | some key =>
    let r := { r with tokens := r.tokens.insertIdxIfInBounds key.position .key }
    let r := r.openBlock key.column key.position .blockMapping
    return { r.setKey none with keyAllowed := false }.mark .value
  | none =>
    if !r.inFlow && !r.keyAllowed then none
    let r := if r.inFlow then r else r.openBlock r.place.column r.tokens.size .blockMapping
    return { r with keyAllowed := !r.inFlow }.mark .value

/-- A directive or document marker, which closes every block. -/
def topLevel (r : Reading) (token : Token) (p : Place) : Option Reading := do
  let r ← (r.closeBlocks (-1)).dropKey
  return ({ r with keyAllowed := false }.push token).moveTo p

def blockScalar (r : Reading) (style : Style) : Option Reading := do
  let r ← r.dropKey
  let (text, p) ← readBlock (style == .folded) r.indent r.place.next
  return ({ r with keyAllowed := true }.push (.scalar text style)).moveTo p

def quotedScalar (quote : Char) (style : Style) (p : Place) : Option (Token × Place) := do
  let (f, q) ← readQuoted quote (p.rest.length + 1) {} p.next
  return (.scalar f.result style, q)

/-- A plain scalar; after one that ran over lines a key may begin. -/
def plainScalar (r : Reading) : Option Reading := do
  let r ← r.markKey
  let (f, p) ← readPlain r.inFlow (r.indent + 1) (r.place.rest.length + 1) {} r.place
  return ({ r with keyAllowed := f.broken }.push (.scalar f.result .plain)).moveTo p

/-- A plain scalar can begin here. -/
def beginsPlain (r : Reading) (c : Char) : Bool :=
  let spaced := r.place.endsAt 1 isSpacing
  !(isSpacing c || "-?:,[]\x7b\x7d#&*!|>\x27\x22%@\x60".toList.contains c) ||
    (c == '-' && !(r.place.at? 1).any isGap) ||
    (!r.inFlow && (c == '?' || c == ':') && !spaced)

/-- The token that begins with the character `c` here. -/
def readToken (r : Reading) (c : Char) : Option Reading :=
  let p := r.place
  let spaced := p.endsAt 1 isSpacing
  if p.column == 0 && c == '%' then do
    let (token, q) ← readDirective p
    r.topLevel token q
  else if p.seesMarker '-' then r.topLevel .documentStart (p.skip 3)
  else if p.seesMarker '.' then r.topLevel .documentEnd (p.skip 3)
  else if c == '[' then r.openFlow .flowSequence
  else if c == '\x7b' then r.openFlow .flowMapping
  else if c == ']' then r.closeFlow .flowSequenceEnd
  else if c == '\x7d' then r.closeFlow .flowMappingEnd
  else if c == ',' then do return { ← r.dropKey with keyAllowed := true }.mark .flowEntry
  else if c == '-' && spaced then r.blockItem
  else if c == '?' && (r.inFlow || spaced) then r.markedKey
  else if c == ':' && (r.inFlow || spaced) then r.keyedValue
  else if c == '*' then r.atom fun p => (readName p).map fun (name, q) => (.alias name, q)
  else if c == '&' then r.atom fun p => (readName p).map fun (name, q) => (.anchor name, q)
  else if c == '!' then r.atom (readTag r.inFlow)
  else if c == '|' && !r.inFlow then r.blockScalar .literal
  else if c == '>' && !r.inFlow then r.blockScalar .folded
  else if c == '\x27' then r.atom (quotedScalar '\x27' .single)
  else if c == '\x22' then r.atom (quotedScalar '\x22' .double)
  else if r.beginsPlain c then r.plainScalar
  else none

def readAll : (fuel : Nat) → Reading → Option (Array Token)
  | 0, _ => none
  | fuel + 1, r =>
    let r := r.skipSpacing (r.place.rest.length + 1)
    let r := r.closeBlocks r.place.column
    match r.place.head? with
    | some c => (r.readToken c).bind (readAll fuel)
    | none => ((r.closeBlocks (-1)).dropKey).map (·.tokens)

end Reading

def tokens? (text : String) : Option (List Token) :=
  let chars := text.toList
  if chars.all isPrintable then
    (Reading.readAll (chars.length + 1) { place := Place.start chars }).map Array.toList
  else none

end ApiTrial.Yaml
