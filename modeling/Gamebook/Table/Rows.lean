import Gamebook.Cell.Action
import Gamebook.Cell.Mechanic
import Gamebook.Cell.Requirement
import Gamebook.Cell.Spawn
import Gamebook.Check.Diagnostic
import Gamebook.Table.Csv

/-!
# Entities as rows

Every table has a fixed order of columns, and what an entity does not have is an empty cell. The
node table has as many choice slots as its longest node needs, and three at least.
-/

namespace Gamebook

def leastSlots : Nat := 3

/-- The columns of the choice slots after the first `n`. -/
def slotColumns (n count : Nat) : List String :=
  (List.range count).flatMap fun i =>
    let start := "choice" ++ natText (n + i + 1) ++ "_"
    [start ++ "id", start ++ "label", start ++ "visibility", start ++ "mechanic"]

def Node.columns (slots : Nat) : List String :=
  ["id", "type", "text", "image", "onEnter"] ++ slotColumns 0 slots

def Item.columns : List String :=
  ["id", "name", "type", "damage", "attackBonus", "acBonus", "effect", "scalingAttribute", "aoe"]

def Enemy.columns : List String :=
  ["id", "name", "hp", "maxHp", "ac", "attackBonus", "damage", "xpReward"]

def Encounter.columns : List String := ["id", "name", "enemies", "onVictory", "onDefeat"]

def optionalCell (n : Option Number) : String := (n.map fun n => String.ofList n.cell).getD ""

def Choice.cells (c : Choice) : List String :=
  [c.id.text, c.label, Requirement.cell c.requirementList, c.mechanic.token]

def Node.cells (slots : Nat) (n : Node) : List String :=
  [n.id.text, n.type, n.text, n.image.getD "", Action.cell n.actionList] ++
    (n.choiceList.take slots).flatMap Choice.cells ++
    List.replicate (4 * (slots - n.choiceList.length)) ""

def Item.cells (i : Item) : List String :=
  [i.id.text, i.name, i.type, i.damage.getD "", optionalCell i.attackBonus,
    optionalCell i.armorBonus, (i.effect.map Action.token).getD "", i.scalingAttribute.getD "",
    (i.areaOfEffect.map fun b => (Scalar.flag b).cell).getD ""]

def Enemy.cells (e : Enemy) : List String :=
  let hp := String.ofList e.hp.cell
  [e.id.text, e.name, hp, hp, String.ofList e.armor.cell, String.ofList e.attackBonus.cell,
    e.damage.text, String.ofList e.reward.cell]

/-- A nameless encounter goes by its id. -/
def Encounter.cells (e : Encounter) : List String :=
  let name := e.name.getD ""
  [e.id.text, if name = "" then e.id.text else name, Spawn.cell e.spawns, e.onVictory, e.onDefeat]

def Node.row (slots : Nat) (n : Node) : Entries String := (Node.columns slots).zip (n.cells slots)

def Item.row (i : Item) : Entries String := Item.columns.zip i.cells

def Enemy.row (e : Enemy) : Entries String := Enemy.columns.zip e.cells

def Encounter.row (e : Encounter) : Entries String := Encounter.columns.zip e.cells

namespace Story

def slots (s : Story) : Nat :=
  s.nodes.toList.foldl (fun n node => max n node.choiceList.length) leastSlots

/-- Can the choice slots be numbered in the names of their columns? -/
def hasNumberedSlots (s : Story) : Bool := (decimalDigits s.slots).length ≤ Text.maxDigits

def table (s : Story) : EntityKind → String
  | .node => Csv.write (Node.columns s.slots) (s.nodes.toList.map (Node.row s.slots))
  | .item => Csv.write Item.columns (s.items.toList.map Item.row)
  | .enemy => Csv.write Enemy.columns (s.enemies.toList.map Enemy.row)
  | .encounter => Csv.write Encounter.columns (s.encounters.toList.map Encounter.row)

end Story

end Gamebook
