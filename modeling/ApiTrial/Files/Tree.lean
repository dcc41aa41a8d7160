import ApiTrial.Files.Path
import ApiTrial.Table

/-!
Trees of files, ways through them, and the YAML files in them. Above the top of a tree is the top
itself.
-/
namespace ApiTrial

/-- A file with its bytes, or a directory with its entries. -/
inductive FileTree where
  | file (content : List UInt8)
  | directory (entries : List (String × FileTree))
  deriving Inhabited

namespace FileTree

def empty : FileTree := .directory []

def entries : FileTree → List (String × FileTree)
  | file _ => []
  | directory entries => entries

def isDirectory : FileTree → Bool
  | file _ => false
  | directory _ => true

/-- A tree with another one put at the end of a path of names. -/
def put (into : FileTree) (names : List String) (tree : FileTree) : FileTree :=
  match names with
  | [] => tree
  | name :: rest =>
    let below := (Table.get? name into.entries).getD empty
    directory (Table.insert name (put below rest tree) into.entries)

/-- A tree with a directory at the end of a path of names, if there is none yet. -/
def putDirectory (into : FileTree) (names : List String) : FileTree :=
  match names with
  | [] => into
  | name :: rest =>
    let below := (Table.get? name into.entries).getD empty
    directory (Table.insert name (putDirectory below rest) into.entries)

/-- Why a path leads to no tree. -/
inductive Fault where
  | missing
  | throughFile
  | isDirectory
  | notText
  deriving DecidableEq, Repr

def Fault.message : Fault → String
  | missing => "No such file or directory (os error 2)"
  | throughFile => "Not a directory (os error 20)"
  | isDirectory => "Is a directory (os error 21)"
  | notText => "stream did not contain valid UTF-8"

/-- The tree at the end of parts of a path. `above` are the directories that lead to this one, the
nearest first. -/
def walk (above : List FileTree) (tree : FileTree) : List PathPart → Except Fault FileTree
  | [] => .ok tree
  | part :: rest =>
    match tree with
    | file _ => .error .throughFile
    | directory entries =>
      match part with
      | .top => .error .missing
      | .here => walk above tree rest
      | .up =>
        match above with
        | [] => walk [] tree rest
        | parent :: above => walk above parent rest
      | .name name =>
        match Table.get? name entries with
        | some below => walk (tree :: above) below rest
        | none => .error .missing

mutual

/-- The paths of the YAML files in a directory whose own path is given. -/
def yamlBelow (path : String) : FileTree → List String
  | file _ => []
  | directory entries => yamlIn path entries

/-- The paths of the YAML files among the entries of a directory. -/
def yamlIn (path : String) : List (String × FileTree) → List String
  | [] => []
  | (name, .file _) :: rest =>
    (if Path.isYaml name then [Path.join path name] else []) ++ yamlIn path rest
  | (name, .directory entries) :: rest =>
    yamlIn (Path.join path name) entries ++ yamlIn path rest

end

end FileTree

end ApiTrial
