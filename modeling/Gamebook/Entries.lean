/-!
# Ordered entries

Key-value pairs whose order is that of their first writing: writing a key again replaces its value
and leaves it in its place.
-/

namespace Gamebook

/-- Pairs under texts, in the order of the first writing of each key. -/
abbrev Entries (α : Type) := List (String × α)

namespace Entries

variable {κ α : Type} [DecidableEq κ]

def put (key : κ) (value : α) : List (κ × α) → List (κ × α)
  | [] => [(key, value)]
  | entry :: entries =>
    if entry.1 = key then (key, value) :: entries else entry :: put key value entries

def get? (key : κ) (entries : List (κ × α)) : Option α :=
  entries.lookup key

def ofPairs (pairs : List (κ × α)) : List (κ × α) :=
  pairs.foldl (fun entries (key, value) => put key value entries) []

def keys (entries : List (κ × α)) : List κ := entries.map (·.1)

def values (entries : List (κ × α)) : List α := entries.map (·.2)

end Entries

end Gamebook
