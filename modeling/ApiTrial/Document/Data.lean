import ApiTrial.Json.Basic

/-!
Values that carry their own kind, before it is known what they are for. They hold what JSON holds,
and also numbers that are not finite and maps whose keys are not texts.
-/
namespace ApiTrial

/-- A value of a document. A real that is not a finite number is `none`. -/
inductive Data where
  | null
  | bool (value : Bool)
  | int (value : Int)
  | real (value : Option Binary64)
  | text (value : String)
  | list (items : List Data)
  | map (entries : List (Data × Data))
  deriving Inhabited

namespace Data

def text? : Data → Option String
  | text value => some value
  | _ => none

mutual

def ofJson : Json → Data
  | .null => null
  | .bool b => bool b
  | .int i => int i
  | .float x => real (some x)
  | .str s => text s
  | .arr items => list (ofItems items)
  | .obj members => map (ofMembers members)

def ofItems : List Json → List Data
  | [] => []
  | item :: rest => ofJson item :: ofItems rest

def ofMembers : List (String × Json) → List (Data × Data)
  | [] => []
  | (key, value) :: rest => (text key, ofJson value) :: ofMembers rest

end

mutual

/-- The JSON value of data, if every key is a text; a number that is not finite becomes null. -/
def toJson? : Data → Option Json
  | null => some .null
  | bool b => some (.bool b)
  | int i => some (.int i)
  | real (some x) => some (.float x)
  | real none => some .null
  | text s => some (.str s)
  | list items => (toItems? items).map .arr
  | map entries => (toMembers? entries).map Json.ofMembers

/-- The JSON values of items. -/
def toItems? : List Data → Option (List Json)
  | [] => some []
  | item :: rest => do return (← toJson? item) :: (← toItems? rest)

/-- The members that entries stand for. -/
def toMembers? : List (Data × Data) → Option (List (String × Json))
  | [] => some []
  | (text key, value) :: rest => do return (key, ← toJson? value) :: (← toMembers? rest)
  | _ :: _ => none

end

end Data

end ApiTrial
