import ApiTrial.Json.Basic

/-!
JSON pointers: a slash before each step, `~1` for a slash in a step and `~0` for a tilde. The empty
pointer is the whole value.
-/
namespace ApiTrial.Json

/-- The parts of a text between the separators. -/
def splitAt (separator : Char) : List Char → List (List Char)
  | [] => [[]]
  | c :: r =>
    if c = separator then [] :: splitAt separator r
    else match splitAt separator r with
    | part :: parts => (c :: part) :: parts
    | [] => [[c]]

/-- A text with every `~` followed by `mark` replaced by one character. -/
def unescapeStep (mark meant : Char) : List Char → List Char
  | '~' :: c :: r =>
    if c = mark then meant :: unescapeStep mark meant r else '~' :: unescapeStep mark meant (c :: r)
  | c :: r => c :: unescapeStep mark meant r
  | [] => []

/-- The position that a step names in an array: digits without a leading zero. -/
def stepIndex? (step : List Char) : Option Nat :=
  if step.isEmpty || !step.all Char.isDigit || (step.head? == some '0' && step.length != 1) then
    none
  else some (step.foldl (fun n c => n * 10 + (c.toNat - 48)) 0)

/-- The value that one step leads to. -/
def step? (step : List Char) : Json → Option Json
  | obj members => Table.get? (String.ofList step) members
  | arr items => (stepIndex? step).bind fun i => items[i]?
  | _ => none

/-- The value that a pointer leads to. -/
def pointer? (pointer : String) (value : Json) : Option Json :=
  match pointer.toList with
  | [] => some value
  | '/' :: steps =>
    (splitAt '/' steps).foldl
      (fun reached step =>
        reached.bind (step? (unescapeStep '0' '~' (unescapeStep '1' '/' step)))) (some value)
  | _ => none

/-- The empty pointer is the whole value. -/
theorem pointer?_empty (value : Json) : pointer? "" value = some value := rfl

end ApiTrial.Json
