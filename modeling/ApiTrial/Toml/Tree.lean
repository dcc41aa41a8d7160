import ApiTrial.Document.Data
import ApiTrial.Table

/-!
The tables that a configuration text builds up. A table remembers how it came to be, since a text
may name a table in a header only once, and may not add to a table by another way than the one that
made it.
-/
namespace ApiTrial.Toml

/-- How a table came to be: by its own header, on the way to the table of another header, or on the
way to a key with points. -/
inductive Origin where
  | header | passed | dotted
  deriving DecidableEq, Repr

/-- What stands under a key: a value, a table, or a list of tables, the last one first. -/
inductive Entry where
  | value (data : Data)
  | table (origin : Origin) (entries : List (String × Entry))
  | tables (last : List (String × Entry)) (earlier : List (List (String × Entry)))

abbrev Entries := Table Entry

namespace Entries

/-- Entries with a change in the table at the end of a path. Tables on the way that are missing are
made. With `dotted` the path is part of a key, which may not lead through a table with a header. -/
def change (dotted : Bool) (f : Origin → Entries → Option Entries) :
    List String → Origin → Entries → Option Entries
  | [], origin, entries => f origin entries
  | key :: rest, _, entries =>
    match Table.get? key entries with
    | none => do
      let origin : Origin := if dotted then .dotted else .passed
      let inner ← change dotted f rest origin []
      return Table.insert key (.table origin inner) entries
    | some (.value _) => none
    | some (.table origin inner) =>
      if dotted && origin == .header then none
      else do
        let inner ← change dotted f rest origin inner
        return Table.insert key (.table origin inner) entries
    | some (.tables last earlier) => do
      let last ← change dotted f rest .header last
      return Table.insert key (.tables last earlier) entries

/-- The path of a key, and its last part. -/
def split (key : List String) : Option (List String × String) :=
  key.getLast?.map fun last => (key.dropLast, last)

/-- Entries with a value under a key with points. A key without points may not stand in a table that
such keys have made, nor one with points in any other. -/
def assign (key : List String) (value : Data) (entries : Entries) : Option Entries := do
  let (path, last) ← split key
  change true (fun origin inner =>
    if (origin == .dotted) == path.isEmpty || (Table.get? last inner).isSome then none
    else some (Table.insert last (.value value) inner)) path .header entries

/-- Entries with the table of a header. -/
def openTable (key : List String) (entries : Entries) : Option Entries := do
  let (path, last) ← split key
  change false (fun _ inner =>
    match Table.get? last inner with
    | none => some (Table.insert last (.table .header []) inner)
    | some (.table .passed entries) => some (Table.insert last (.table .header entries) inner)
    | some _ => none) path .header entries

/-- Entries with one more table in the list of a header. -/
def openListed (key : List String) (entries : Entries) : Option Entries := do
  let (path, last) ← split key
  change false (fun _ inner =>
    match Table.get? last inner with
    | none => some (Table.insert last (.tables [] []) inner)
    | some (.tables newest earlier) =>
      some (Table.insert last (.tables [] (newest :: earlier)) inner)
    | some _ => none) path .header entries

/-- Entries with a value assigned in the table of the header before. -/
def assignIn (header key : List String) (value : Data) (entries : Entries) : Option Entries :=
  change false (fun _ inner => assign key value inner) header .header entries

end Entries

mutual

def Entry.data : Entry → Data
  | .value data => data
  | .table _ entries => .map (dataOfEntries entries)
  | .tables last earlier => .list ((dataOfTables earlier).reverse ++ [.map (dataOfEntries last)])

def dataOfEntries : List (String × Entry) → List (Data × Data)
  | [] => []
  | (key, entry) :: rest => (.text key, entry.data) :: dataOfEntries rest

def dataOfTables : List (List (String × Entry)) → List Data
  | [] => []
  | entries :: rest => .map (dataOfEntries entries) :: dataOfTables rest

end

end ApiTrial.Toml
