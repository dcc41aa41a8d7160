/-!
Tables: values under text keys, held in key order. Keys are compared by their code points, and
the last value written under a key is the one it holds.
-/
namespace ApiTrial

/-- Values under text keys, in key order. -/
abbrev Table (α : Type) := List (String × α)

namespace Table

variable {α β : Type}

def get? (key : String) : Table α → Option α
  | [] => none
  | (k, v) :: rest => if k = key then some v else get? key rest

def insert (key : String) (value : α) : Table α → Table α
  | [] => [(key, value)]
  | (k, v) :: rest =>
    if k = key then (key, value) :: rest
    else if key < k then (key, value) :: (k, v) :: rest
    else (k, v) :: insert key value rest

def erase (key : String) (table : Table α) : Table α :=
  table.filter fun entry => entry.1 ≠ key

/-- A table with a batch of entries written one after the other. -/
def insertAll (entries : List (String × α)) (table : Table α) : Table α :=
  entries.foldl (fun t entry => insert entry.1 entry.2 t) table

/-- The table of a list of entries, in which a later entry replaces an earlier one. -/
def ofEntries (entries : List (String × α)) : Table α := insertAll entries []

def keys (table : Table α) : List String := table.map (·.1)

def contains (key : String) (table : Table α) : Bool := (get? key table).isSome

theorem get?_insert (key k : String) (value : α) (table : Table α) :
    get? k (insert key value table) = if key = k then some value else get? k table := by
  induction table with
  | nil => simp [insert, get?]
  | cons entry rest ih => grind [insert, get?]

theorem get?_insert_self (key : String) (value : α) (table : Table α) :
    get? key (insert key value table) = some value := by
  simp [get?_insert]

theorem get?_erase (key k : String) (table : Table α) :
    get? k (erase key table) = if key = k then none else get? k table := by
  induction table with
  | nil => simp [erase, get?]
  | cons entry rest ih => grind [erase, get?]

end Table

end ApiTrial
