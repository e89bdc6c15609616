import Gamebook.Json.Writer
import Gamebook.Schema.Story

/-!
# Compiled artifacts

What the runtime loads: one JSON text per collection, its entities in the order of their ids.
-/

namespace Gamebook

/-- The entities of a collection in the order of their ids. -/
def Collection.sorted {α : Type} [Keyed α] (c : Collection α) : List α :=
  c.toList.mergeSort fun a b => decide (Keyed.key a ≤ Keyed.key b)

def Collection.artifact {α : Type} [Keyed α] (c : Collection α) (write : α → Json) : String :=
  (Json.object (c.sorted.map fun x => (Keyed.key x, write x))).toBlock ++ "\n"

def Story.artifacts (s : Story) : List (String × String) := [
  ("nodes.json", s.nodes.artifact Node.toJson),
  ("items.json", s.items.artifact Item.toJson),
  ("enemies.json", s.enemies.artifact Enemy.toJson),
  ("encounters.json", s.encounters.artifact Encounter.toJson)]

/-- The artifacts of a story, unless one of its numbers has too many digits to be written. No number
in a table has. -/
def Story.render? (s : Story) : Option (List (String × String)) :=
  if s.toJson.isWritable then some s.artifacts else none

end Gamebook
