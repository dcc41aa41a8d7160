/-!
Paths as they are written, and their parts. Paths are ordered part by part, and two spellings with
the same parts are one place.
-/
namespace ApiTrial

inductive PathPart where
  | top
  | here
  | up
  | name (text : String)
  deriving DecidableEq, Repr

namespace PathPart

/-- The rank of parts that are no names, which come before all names. -/
def rank : PathPart → Nat
  | top => 0
  | here => 1
  | up => 2
  | name _ => 3

/-- The order of parts: by rank, and names by their characters. -/
def le : PathPart → PathPart → Bool
  | name a, name b => decide (a ≤ b)
  | a, b => decide (a.rank ≤ b.rank)

end PathPart

namespace Path

/-- The texts between slashes that are not empty. -/
def pieces (path : String) : List String :=
  ((path.toList.splitOn '/').filter fun piece => !piece.isEmpty).map String.ofList

/-- The part that a piece stands for. A single dot counts only at the head of a path. -/
def part? (atHead : Bool) (piece : String) : Option PathPart :=
  if piece = "." then (if atHead then some .here else none)
  else if piece = ".." then some .up
  else some (.name piece)

def parts (path : String) : List PathPart :=
  let pieces := pieces path
  if path.toList.head? == some '/' then .top :: pieces.filterMap (part? false)
  else
    match pieces with
    | [] => []
    | first :: rest => (part? true first).toList ++ rest.filterMap (part? false)

/-- A path whose last piece is empty or a single dot, which leads to directories only. -/
def wantsDirectory (path : String) : Bool :=
  let last := (path.toList.splitOn '/').getLast?
  last == some [] || last == some ['.']

/-- The names on the way that parts describe; going up takes back the name before. -/
def names (parts : List PathPart) : List String :=
  parts.foldl (fun names part =>
    match part with
    | .name name => names ++ [name]
    | .up => names.dropLast
    | .top | .here => names) []

/-- The order of paths by their parts; a path comes before those that go on from it. -/
def leParts : List PathPart → List PathPart → Bool
  | [], _ => true
  | _ :: _, [] => false
  | a :: as, b :: bs => if a = b then leParts as bs else a.le b

/-- A path comes before another or is the same place. -/
def le (a b : String) : Bool := leParts (parts a) (parts b)

/-- Two spellings of one place. -/
def same (a b : String) : Bool := parts a == parts b

/-- The path of an entry of a directory. -/
def join (directory entry : String) : String :=
  if directory.toList.getLast? == some '/' then directory ++ entry else directory ++ "/" ++ entry

/-- What stands behind the last point of a name, unless the point begins the name. -/
def suffix? (name : String) : Option String :=
  let behind := name.toList.reverse.takeWhile (· != '.')
  if behind.length + 1 < name.toList.length then some (String.ofList behind.reverse) else none

def isYaml (name : String) : Bool := suffix? name == some "yaml" || suffix? name == some "yml"

/-- Paths in order, each place once, under its first spelling. -/
def dedup : List String → List String
  | [] => []
  | path :: rest =>
    match dedup rest with
    | [] => [path]
    | next :: others => if same path next then path :: others else path :: next :: others

/-- Paths in order, each place once. -/
def sorted (paths : List String) : List String := dedup (paths.mergeSort le)

end Path

end ApiTrial
