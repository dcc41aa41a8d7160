import ApiTrial.Yaml.Place

/-!
The text of a scalar with the spacing inside it folded: a single line end becomes a space, and of
several the first is dropped.
-/
namespace ApiTrial.Yaml

/-- The characters read so far, last first, and the spacing behind them that is not settled yet. -/
structure Folding where
  text : List Char := []
  gap : List Char := []
  first : List Char := []
  further : List Char := []
  broken : Bool := false

namespace Folding

/-- The line ends that are kept between two lines. -/
def joint (first further : List Char) : List Char :=
  if first == ['\n'] then (if further.isEmpty then [' '] else further) else first ++ further

/-- The spacing is settled: it stands between two characters of the text. -/
def settle (f : Folding) : Folding :=
  let between := if f.broken then joint f.first f.further else f.gap.reverse
  { text := between.reverse ++ f.text }

def push (f : Folding) (c : Char) : Folding := { f with text := c :: f.text }

/-- A space or tab; at the start of a further line it is dropped. -/
def pushGap (f : Folding) (c : Char) : Folding :=
  if f.broken then f else { f with gap := c :: f.gap }

def pushBreak (f : Folding) (ending : List Char) : Folding :=
  if f.broken then { f with further := f.further ++ ending }
  else { f with gap := [], first := ending, broken := true }

/-- Spacing up to the next character of the text. `mayTab` tells where a tab may stand in front of
a line. -/
def readSpacing (mayTab : Nat → Bool) : (fuel : Nat) → Folding → Place → Option (Folding × Place)
  | 0, f, p => some (f, p)
  | fuel + 1, f, p =>
    match p.head? with
    | none => some (f, p)
    | some c =>
      if isGap c then
        if f.broken && c == '\t' && !mayTab p.column then none
        else readSpacing mayTab fuel (f.pushGap c) p.next
      else if isBreak c then
        let (ending, q) := p.nextLine
        readSpacing mayTab fuel (f.pushBreak ending) q
      else some (f, p)

def result (f : Folding) : String := String.ofList f.text.reverse

end Folding

end ApiTrial.Yaml
