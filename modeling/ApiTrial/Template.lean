import ApiTrial.Environment.Basic
import ApiTrial.Text.Blank

/-!
Text templates with placeholders between doubled braces. A template is read once, from left to
right, into segments; values are spliced into their places and never read again.
-/
namespace ApiTrial

/-- A piece of a template. -/
inductive Segment where
  | literal (text : String)
  | placeholder (key : String)
  deriving DecidableEq, Repr

def Segment.key? : Segment → Option String
  | .placeholder key => some key
  | .literal _ => none

structure Template where
  source : String
  segments : List Segment
  deriving DecidableEq, Repr

namespace Template

/-- What is wrong with a placeholder. -/
inductive Fault where
  | unclosed
  | emptyKey
  | badKey
  deriving DecidableEq, Repr

def Fault.message : Fault → String
  | unclosed => "'\x7b\x7b' without closing '\x7d\x7d'"
  | emptyKey => "empty placeholder"
  | badKey => "placeholder names may only contain letters, digits, '_', '-' and '.'"

def isKeyChar (c : Char) : Bool := c.isAlphanum || c == '_' || c == '-' || c == '.'

/-- The key between the braces, without the blanks around it. -/
def key (inside : List Char) : Except Fault String :=
  let key := Text.trimBlanks inside
  if key.isEmpty then .error .emptyKey
  else if key.all isKeyChar then .ok (String.ofList key)
  else .error .badKey

/-- The literal segment of collected characters, last first, if there are any. -/
def literal (collected : List Char) : List Segment :=
  if collected.isEmpty then [] else [.literal (String.ofList collected.reverse)]

/-- The segments of the rest of a text. `opened` is the offset of the placeholder that is open,
`collected` holds the characters of the current piece, last first, and `offset` counts bytes. -/
def readFrom (opened : Option Nat) (collected : List Char) (offset : Nat) :
    List Char → Except (Nat × Fault) (List Segment)
  | [] =>
    match opened with
    | some start => .error (start, .unclosed)
    | none => .ok (literal collected)
  | [c] =>
    match opened with
    | some start => .error (start, .unclosed)
    | none => .ok (literal (c :: collected))
  | c :: d :: rest =>
    match opened with
    | none =>
      if c = '\x7b' ∧ d = '\x7b' then
        match readFrom (some offset) [] (offset + 2) rest with
        | .ok segments => .ok (literal collected ++ segments)
        | .error fault => .error fault
      else readFrom none (c :: collected) (offset + c.utf8Size) (d :: rest)
    | some start =>
      if c = '\x7d' ∧ d = '\x7d' then
        -- A placeholder is faulted at the braces that open it.
        match key collected.reverse with
        | .error fault => .error (start, fault)
        | .ok key =>
          match readFrom none [] (offset + 2) rest with
          | .ok segments => .ok (.placeholder key :: segments)
          | .error fault => .error fault
      else readFrom (some start) (c :: collected) (offset + c.utf8Size) (d :: rest)

def parse (source : String) : Except Error Template :=
  match readFrom none [] 0 source.toList with
  | .ok segments => .ok ⟨source, segments⟩
  | .error (offset, fault) => .error (.malformedTemplate source offset fault.message)

/-- The keys of the placeholders, in reading order. -/
def placeholders (template : Template) : List String := template.segments.filterMap Segment.key?

/-- The text of segments, in which every key must be set. -/
def renderSegments (value? : String → Option Json) : List Segment → Except Error String
  | [] => .ok ""
  | .literal text :: rest => (renderSegments value? rest).map (text ++ ·)
  | .placeholder key :: rest =>
    match value? key with
    | none => .error (.undefinedVariable key)
    | some value => (renderSegments value? rest).map (value.splice ++ ·)

/-- The text of a template, in which every key must be set. -/
def render (template : Template) (value? : String → Option Json) : Except Error String :=
  renderSegments value? template.segments

/-- The text that a template text stands for. -/
def substitute (source : String) (value? : String → Option Json) : Except Error String :=
  match parse source with
  | .ok template => template.render value?
  | .error e => .error e

end Template

end ApiTrial
