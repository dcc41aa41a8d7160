import ApiTrial.Error
import ApiTrial.Files.Tree
import ApiTrial.Text.Utf8

/-!
All files there are, seen from a directory: reading a file by its path, and finding the YAML files
that some roots stand for.
-/
namespace ApiTrial

/-- The tree of all files, and the names that lead from its top to the directory where paths
begin. -/
structure Files where
  top : FileTree
  here : List String := []

namespace Files

/-- The way from the top that parts of a path describe. -/
def fromTop (files : Files) : List PathPart → List PathPart
  | .top :: rest => rest
  | parts => files.here.map PathPart.name ++ parts

/-- All files with another one at a path. -/
def put (files : Files) (path : String) (tree : FileTree) : Files :=
  { files with top := files.top.put (Path.names (files.fromTop (Path.parts path))) tree }

/-- All files with a directory at a path, if there is none yet. -/
def putDirectory (files : Files) (path : String) : Files :=
  { files with top := files.top.putDirectory (Path.names (files.fromTop (Path.parts path))) }

/-- The tree at a path, which is a directory if the path wants one. -/
def at? (files : Files) (path : String) : Except FileTree.Fault FileTree :=
  if path.isEmpty then .error .missing
  else
    match FileTree.walk [] files.top (files.fromTop (Path.parts path)) with
    | .ok (.file content) =>
      if Path.wantsDirectory path then .error .throughFile else .ok (.file content)
    | result => result

def text? (files : Files) (path : String) : Except FileTree.Fault String := do
  match ← files.at? path with
  | .directory _ => throw .isDirectory
  | .file content =>
    match Text.ofUtf8? content with
    | some text => return text
    | none => throw .notText

/-- The text of the file at a path, which must be there. -/
def readText (files : Files) (path : String) : Except Error String :=
  (files.text? path).mapError fun fault => .fileRead path fault.message

def hasPath (files : Files) (path : String) : Bool := (files.at? path).toBool

/-- The files that a root stands for: itself if it is a file, else all YAML files below it. -/
def rootFiles (files : Files) (root : String) : Except Error (List String) :=
  match files.at? root with
  | .ok (.file _) => .ok [root]
  | .ok found => .ok (found.yamlBelow root)
  | .error _ => .error (.fileRead root "no such file or directory")

/-- The files that some roots stand for, in order, each place once. -/
def yamlFiles (files : Files) (roots : List String) : Except Error (List String) := do
  return Path.sorted (← roots.mapM files.rootFiles).flatten

end Files

end ApiTrial
