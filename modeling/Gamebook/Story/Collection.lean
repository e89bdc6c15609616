/-!
# Collections

The entities of one kind in the order in which they were added, each under its own key. No key
occurs twice.
-/

namespace Gamebook

/-- Entities that carry their key. -/
class Keyed (α : Type) where
  key : α → String

/-- Entities in order, with distinct keys. -/
structure Collection (α : Type) [Keyed α] where
  toList : List α
  distinct : (toList.map Keyed.key).Nodup

namespace Collection

variable {α : Type} [Keyed α]

def empty : Collection α := ⟨[], by simp⟩

instance : Inhabited (Collection α) := ⟨empty⟩

def keys (c : Collection α) : List String := c.toList.map Keyed.key

def contains (c : Collection α) (key : String) : Bool := c.keys.contains key

def get? (c : Collection α) (key : String) : Option α :=
  c.toList.find? fun x => Keyed.key x = key

/-- Adds an entity at the end, unless its key is taken. -/
def add (c : Collection α) (x : α) : Collection α :=
  if h : Keyed.key x ∈ c.keys then c
  else ⟨c.toList ++ [x], by
    rw [List.map_append, List.nodup_append]
    refine ⟨c.distinct, by simp, ?_⟩
    intro a ha b hb
    simp only [List.map_cons, List.map_nil, List.mem_singleton] at hb
    rintro rfl
    exact h (hb ▸ ha)⟩

/-- The entities in order; of several under one key the first is kept. -/
def ofList (l : List α) : Collection α := l.foldl add empty

def size (c : Collection α) : Nat := c.toList.length

end Collection

end Gamebook
