import Gamebook.Cell.Action
import Gamebook.Check.Issue
import Gamebook.Dice

/-!
# Checking entities

Each entity is checked by itself against the keys of the story: every reference must be a key of its
collection, and every word, number and dice expression must be a proper one. No issue stops the
check, and the issues come in the order of the entities. A dice text stops it if a number in it is
too long to be read.
-/

namespace Gamebook

/-- The keys that references may name. -/
structure Keys where
  nodes : List String
  items : List String
  enemies : List String
  encounters : List String

def Story.keys (s : Story) : Keys := ⟨s.nodes.keys, s.items.keys, s.enemies.keys, s.encounters.keys⟩

def nodeTypes : List String := ["narrative", "encounter", "ending"]

def itemTypes : List String := ["weapon", "consumable", "tool", "armor"]

def abilities : List String := ["strength", "dexterity", "intelligence"]

def statOperators : List String := [">=", "<=", "==", ">", "<"]

def statNames : List String := ["hpCurrent", "currency"]

def issueIf (condition : Bool) (issue : Issue) : List Issue := if condition then [issue] else []

namespace Check

variable (keys : Keys)

def skillCheck (place : ChoicePlace) (c : SkillCheck) : List Issue :=
  let encounter := c.failureEncounter.getD ""
  let ability := c.ability.getD ""
  issueIf (!keys.nodes.contains c.onSuccess) (.choiceTarget place .success c.onSuccess) ++
  issueIf (!keys.nodes.contains c.onFailure) (.choiceTarget place .failure c.onFailure) ++
  issueIf (encounter ≠ "" && !keys.encounters.contains encounter)
    (.failureEncounter place encounter) ++
  issueIf (!Dice.isExpression c.dice.text) (.checkDice place c.dice.text) ++
  issueIf (ability ≠ "" && !abilities.contains ability) (.checkAbility place ability)

def mechanic (place : ChoicePlace) : Mechanic → List Issue
  | .navigate nodeId =>
    issueIf (!keys.nodes.contains nodeId.text) (.choiceTarget place .navigate nodeId.text)
  | .combat encounterId =>
    issueIf (!keys.encounters.contains encounterId.text) (.combatTarget place encounterId.text)
  | .skillCheck c => skillCheck keys place c

def requirement (place : ChoicePlace) : Requirement → List Issue
  | .hasFlag _ => []
  | .notHasFlag _ => []
  | .hasItem itemId => issueIf (!keys.items.contains itemId.text) (.requiredItem place itemId.text)
  | .statCheck stat operator _ =>
    issueIf (!statOperators.contains operator.text) (.statOperator place operator.text) ++
    issueIf (!statNames.contains stat.text) (.statName place stat.text)

def choice (nodeId : String) (c : Choice) : List Issue :=
  let place : ChoicePlace := ⟨nodeId, c.id.text⟩
  mechanic keys place c.mechanic ++ c.requirementList.flatMap (requirement keys place)

/-- The item of an action, if no item has its key. -/
def missingItem (a : Action) (issue : String → Issue) : List Issue :=
  match a.itemId? with
  | some itemId => issueIf (!keys.items.contains itemId.text) (issue itemId.text)
  | none => []

def node (n : Node) : List Issue :=
  let id := n.id.text
  issueIf (!nodeTypes.contains n.type) (.nodeType id n.type) ++
  n.choiceList.flatMap (choice keys id) ++
  n.actionList.flatMap fun a => missingItem keys a (.enterItem id a.name)

def encounter (e : Encounter) : List Issue :=
  let id := e.id.text
  issueIf e.spawns.isEmpty (.noSpawns id) ++
  (e.spawns.flatMap fun s =>
    issueIf (!keys.enemies.contains s.enemyId.text) (.spawnEnemy id s.enemyId.text)) ++
  issueIf (!keys.nodes.contains e.onVictory) (.resolutionTarget id .victory e.onVictory) ++
  issueIf (!keys.nodes.contains e.onDefeat) (.resolutionTarget id .defeat e.onDefeat)

def item (i : Item) : List Issue :=
  let id := i.id.text
  let ability := i.scalingAttribute.getD ""
  issueIf (!itemTypes.contains i.type) (.itemType id i.type) ++
  issueIf (i.type = "weapon" && i.damage.getD "" = "") (.weaponDamage id) ++
  (i.effect.toList.flatMap fun a => missingItem keys a (.effectItem id a.name)) ++
  issueIf (ability ≠ "" && !abilities.contains ability) (.scaling id ability)

def enemy (e : Enemy) : List Issue :=
  let id := e.id.text
  issueIf (e.hp.le 0) (.enemyHp id) ++
  issueIf (e.armor.lt 0) (.enemyArmor id) ++
  issueIf (!Dice.isExpression e.damage.text) (.enemyDamage id e.damage.text)

end Check

/-- The issues of all entities: nodes, encounters, items, enemies. -/
def Story.entityIssues (s : Story) : List Issue :=
  s.nodes.toList.flatMap (Check.node s.keys) ++
  s.encounters.toList.flatMap (Check.encounter s.keys) ++
  s.items.toList.flatMap (Check.item s.keys) ++
  s.enemies.toList.flatMap Check.enemy

/-- The dice of a mechanic. -/
def Mechanic.diceText? : Mechanic → Option String
  | .skillCheck c => some c.dice.text
  | _ => none

/-- The dice texts that the check of a story asks about, in the order in which it meets them. -/
def Story.diceTexts (s : Story) : List String :=
  (s.nodes.toList.flatMap fun n => n.choiceList.filterMap fun c => c.mechanic.diceText?) ++
  s.enemies.toList.map fun e => e.damage.text

/-- Can all dice texts of a story be read? -/
def Story.isReadable (s : Story) : Bool := s.diceTexts.all fun text => Dice.isReadable text

end Gamebook
