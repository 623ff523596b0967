/-!
# Tables

A table is a list of keys and values in ascending order of the keys, each key once. Entering a key
that is there replaces its value.
-/

namespace StorageGateway

/-- Keys with values, in ascending order of the keys. -/
abbrev Table (κ α : Type) := List (κ × α)

namespace Table

variable {κ α β : Type} [LT κ] [DecidableLT κ] [DecidableEq κ]

/-- Enters a value under a key. -/
def insert (key : κ) (value : α) : Table κ α → Table κ α
  | [] => [(key, value)]
  | (other, old) :: rest =>
    if key < other then (key, value) :: (other, old) :: rest
    else if key = other then (key, value) :: rest
    else (other, old) :: insert key value rest

/-- The table of some entries; of two with one key the later one counts. -/
def ofEntries (entries : List (κ × α)) : Table κ α :=
  entries.foldl (fun table entry => insert entry.1 entry.2 table) []

/-- The same values under other keys. -/
def rekey {ι : Type} [LT ι] [DecidableLT ι] [DecidableEq ι] (key : κ → ι) (table : Table κ α) :
    Table ι α :=
  ofEntries (table.map fun entry => (key entry.1, entry.2))

end Table

end StorageGateway
