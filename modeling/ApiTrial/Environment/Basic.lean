import ApiTrial.Error
import ApiTrial.Json.Printer

/-!
Variables in a tree of scopes. A scope reads through to its parent and keeps its own writes; a key
that is removed while the parent holds it leaves a mark that hides the parent's value.
`Store.lookup` reads one key and `Store.snapshot` flattens a whole scope.
-/
namespace ApiTrial

/-- The number of a scope: how many scopes were made before it. -/
abbrev ScopeId := Nat

/-- A scope: its path, its parent and its own slots, in which `none` marks a removed key. -/
structure Scope where
  path : String
  parent : Option ScopeId
  slots : Table (Option Json)
  deriving Inhabited

/-- All scopes made so far, the newest first. -/
abbrev Store := List Scope

namespace Store

/-- The path of every scope without a parent. -/
def rootPath : String := "root"

/-- The number that the next scope gets. -/
def nextId (store : Store) : ScopeId := store.length

def scope? : Store → ScopeId → Option Scope
  | [], _ => none
  | s :: older, id => if id = older.length then some s else scope? older id

/-- The value of a key as seen from a scope. -/
def lookup : Store → ScopeId → String → Option Json
  | [], _, _ => none
  | s :: older, id, key =>
    -- A scope has as many scopes behind it as its number says.
    if id = older.length then
      match s.slots.get? key with
      -- A slot without a value hides what the parent holds.
      | some slot => slot
      | none => s.parent.bind fun parent => lookup older parent key
    else lookup older id key

/-- A table with the slots of a scope laid over it: values replace, marks remove. -/
def overlay (slots : Table (Option Json)) (below : Table Json) : Table Json :=
  slots.foldl
    (fun table entry =>
      match entry.2 with
      | some value => table.insert entry.1 value
      | none => table.erase entry.1) below

/-- Every key visible from a scope, with its value. -/
def snapshot : Store → ScopeId → Table Json
  | [], _ => []
  | s :: older, id =>
    if id = older.length then
      overlay s.slots (match s.parent with
        | some parent => snapshot older parent
        | none => [])
    else snapshot older id

def modify (change : Scope → Scope) : Store → ScopeId → Store
  | [], _ => []
  | s :: older, id =>
    if id = older.length then change s :: older else s :: modify change older id

/-- The value of a key, which must be set. -/
def get (store : Store) (id : ScopeId) (key : String) : Except Error Json :=
  match store.lookup id key with
  | some value => .ok value
  | none => .error (.undefinedVariable key)

/-- The value of a key in the form that templates splice in. -/
def getText (store : Store) (id : ScopeId) (key : String) : Except Error String :=
  (store.get id key).map Json.splice

/-- A key is set, here or further up. -/
def has (store : Store) (id : ScopeId) (key : String) : Bool := (store.lookup id key).isSome

def set (store : Store) (id : ScopeId) (key : String) (value : Json) : Store :=
  store.modify (fun s => { s with slots := s.slots.insert key (some value) }) id

/-- A store in which a scope holds a batch of values, the last one under each key. -/
def merge (store : Store) (id : ScopeId) (values : List (String × Json)) : Store :=
  store.modify
    (fun s => { s with slots := s.slots.insertAll (values.map fun (k, v) => (k, some v)) }) id

/-- The parent of a scope sees a key. -/
def parentHas (store : Store) (id : ScopeId) (key : String) : Bool :=
  match (store.scope? id).bind Scope.parent with
  | some parent => store.has parent key
  | none => false

/-- A store in which a key is unset as seen from a scope: hidden if the parent sees it now, else
deleted. -/
def remove (store : Store) (id : ScopeId) (key : String) : Store :=
  if store.parentHas id key then
    store.modify (fun s => { s with slots := s.slots.insert key none }) id
  else store.modify (fun s => { s with slots := s.slots.erase key }) id

/-- The path of a scope, such as `root/lane`. -/
def path (store : Store) (id : ScopeId) : String :=
  ((store.scope? id).map Scope.path).getD rootPath

/-- A store with a new scope that has no parent and holds nothing. -/
def addRoot (store : Store) : Store × ScopeId :=
  (⟨rootPath, none, []⟩ :: store, store.nextId)

/-- A store with a new scope below another. -/
def isolate (store : Store) (id : ScopeId) (name : String) : Store × ScopeId :=
  (⟨store.path id ++ "/" ++ name, some id, []⟩ :: store, store.nextId)

/-- A store with a new scope without a parent that holds what is visible from `id` now. -/
def freeze (store : Store) (id : ScopeId) : Store × ScopeId :=
  (⟨rootPath, none, Table.ofEntries ((store.snapshot id).map fun (k, v) => (k, some v))⟩ :: store,
    store.nextId)

end Store

end ApiTrial
