import Gamebook.Schema.Entity
import Gamebook.Text.Display

/-!
# Stories as JSON

A story is an object of four collections, each an object of entities under their ids. Other keys of
the story are ignored. That keys equal ids is asked only of entities that are sound by themselves.
-/

namespace Gamebook

def collectionNames : List String := ["nodes", "items", "enemies", "encounters"]

namespace Collection

variable {α : Type} [Keyed α]

def toJson (c : Collection α) (write : α → Json) : Json :=
  .object (c.toList.map fun x => (Keyed.key x, write x))

/-- The entries whose key is not the key of the entity. -/
def mismatches (name : String) (entries : List (String × α)) : List String :=
  entries.filterMap fun (key, x) =>
    if key = Keyed.key x then none
    else some (name ++ "." ++ key ++ " has id " ++ Text.display (Keyed.key x))

end Collection

namespace Story

open Reader

/-- The story of four lists of entries, if each stands under its own id. -/
def ofEntries (nodes : List (String × Node)) (items : List (String × Item))
    (enemies : List (String × Enemy)) (encounters : List (String × Encounter)) : Checked Story :=
  match Collection.mismatches "nodes" nodes ++ Collection.mismatches "items" items ++
      Collection.mismatches "enemies" enemies ++ Collection.mismatches "encounters" encounters with
  | [] =>
    .ok ⟨.ofList (nodes.map (·.2)), .ofList (items.map (·.2)), .ofList (enemies.map (·.2)),
      .ofList (encounters.map (·.2))⟩
  | found =>
    .fail (.keyMismatch
      ("Value error, entity keys must equal their ids: " ++ ", ".intercalate found))

def ofJson : Reader Story :=
  fields fun f =>
    ((fun nodes items enemies encounters => (nodes, items, enemies, encounters))
      <$> optional f (one "nodes") (map Node.ofJson) []
      <*> optional f (one "items") (map Item.ofJson) []
      <*> optional f (one "enemies") (map Enemy.ofJson) []
      <*> optional f (one "encounters") (map Encounter.ofJson) []).andThen
    fun (nodes, items, enemies, encounters) => ofEntries nodes items enemies encounters

def toFields (s : Story) : List (String × Json) := [
  ("nodes", s.nodes.toJson Node.toJson),
  ("items", s.items.toJson Item.toJson),
  ("enemies", s.enemies.toJson Enemy.toJson),
  ("encounters", s.encounters.toJson Encounter.toJson)]

def toJson (s : Story) : Json := .object s.toFields

end Story

end Gamebook
