/-!
Colours on a terminal. Where a painted text resets the colours itself, they are set again behind
that.
-/
namespace ApiTrial.Text

/-- A way of painting. -/
inductive Ink where
  | red | green | yellow | bold | dimmed | boldRed | boldGreen | boldBlue | boldWhite
  deriving DecidableEq, Repr

def Ink.codes : Ink → String
  | red => "31"
  | green => "32"
  | yellow => "33"
  | bold => "1"
  | dimmed => "2"
  | boldRed => "1;31"
  | boldGreen => "1;32"
  | boldBlue => "1;34"
  | boldWhite => "1;37"

/-- The sequence that resets all colours. -/
def reset : List Char := "\x1b[0m".toList

/-- The sequence that begins a way of painting. -/
def Ink.start (ink : Ink) : List Char := ("\x1b[" ++ ink.codes ++ "m").toList

/-- A text with `again` behind each reset in it. -/
def resume (again : List Char) (text : List Char) : List Char :=
  match text with
  | [] => []
  | c :: rest =>
    if reset.isPrefixOf (c :: rest) then
      reset ++ again ++ resume again (rest.drop (reset.length - 1))
    else c :: resume again rest
termination_by text.length
decreasing_by
  · simp only [List.length_drop, List.length_cons]
    omega
  · simp only [List.length_cons]
    omega

/-- A text painted, if there are colours. -/
def paint (colours : Bool) (ink : Ink) (text : String) : String :=
  if colours then String.ofList (ink.start ++ resume ink.start text.toList ++ reset) else text

/-- The variables of the process that decide on colours. -/
def colourVariables : List String := ["CLICOLOR_FORCE", "NO_COLOR", "CLICOLOR"]

/-- Colours are wanted: what forces them comes first, then what forbids them; otherwise they are for
terminals, unless switched off. -/
def coloursWanted (process : String → Option String) (terminal : Bool) : Bool :=
  if (process "CLICOLOR_FORCE").any (· != "0") then true
  else if (process "NO_COLOR").isSome then false
  else terminal && (process "CLICOLOR").all (· != "0")

/-- Without colours a text is left alone. -/
theorem paint_plain (ink : Ink) (text : String) : paint false ink text = text := rfl

end ApiTrial.Text
