import Gamebook.Schema.Reader
import Gamebook.Story.Basic

/-!
# Entities as JSON

What each entity looks like as a value, in both directions. Fields are written in a fixed order,
under their camel case names, and a field that holds nothing is left out.
-/

namespace Gamebook

open Reader

def one (name : String) : FieldName := .word name

def itemIdField : FieldName := ⟨"itemId", "item_id"⟩
def nextNodeIdField : FieldName := ⟨"nextNodeId", "next_node_id"⟩
def encounterIdField : FieldName := ⟨"encounterId", "encounter_id"⟩
def onSuccessField : FieldName := ⟨"onSuccess", "on_success"⟩
def onFailureField : FieldName := ⟨"onFailure", "on_failure"⟩
def failureEncounterField : FieldName := ⟨"onFailureEncounterId", "on_failure_encounter_id"⟩
def requirementsField : FieldName := ⟨"visibilityRequirements", "visibility_requirements"⟩
def onEnterField : FieldName := ⟨"onEnter", "on_enter"⟩
def attackBonusField : FieldName := ⟨"attackBonus", "attack_bonus"⟩
def armorBonusField : FieldName := ⟨"acBonus", "ac_bonus"⟩
def scalingField : FieldName := ⟨"scalingAttribute", "scaling_attribute"⟩
def rewardField : FieldName := ⟨"xpReward", "xp_reward"⟩
def enemyIdField : FieldName := ⟨"enemyId", "enemy_id"⟩
def onVictoryField : FieldName := ⟨"onVictory", "on_victory"⟩
def onDefeatField : FieldName := ⟨"onDefeat", "on_defeat"⟩

/-- A field, unless it holds nothing. -/
def fieldIf (name : String) (j : Option Json) : List (String × Json) :=
  match j with
  | some j => [(name, j)]
  | none => []

namespace Action

def variants : List (String × (Entries Json → Checked Action)) := [
  ("set_flag", fun f =>
    setFlag <$> required f (one "key") arg <*> optional f (one "value") bool true
      <* noOthers f [one "action", one "key", one "value"]),
  ("add_item", fun f =>
    addItem <$> required f itemIdField arg <*> optional f (one "qty") number 1
      <* noOthers f [one "action", itemIdField, one "qty"]),
  ("remove_item", fun f =>
    removeItem <$> required f itemIdField arg <*> optional f (one "qty") number 1
      <* noOthers f [one "action", itemIdField, one "qty"]),
  ("adjust_hp", fun f =>
    adjustHp <$> optional f (one "amount") number 0
      <* noOthers f [one "action", one "amount"]),
  ("adjust_currency", fun f =>
    adjustCurrency <$> optional f (one "amount") number 0
      <* noOthers f [one "action", one "amount"]),
  ("heal", fun f =>
    heal <$> optional f (one "amount") arg .zero
      <* noOthers f [one "action", one "amount"])]

def ofJson : Reader Action := tagged (one "action") variants

def toJson : Action → Json
  | setFlag key value =>
    .object [("action", "set_flag"), ("key", key.text), ("value", .bool value)]
  | addItem itemId n =>
    .object [("action", "add_item"), ("itemId", itemId.text), ("qty", .number n)]
  | removeItem itemId n =>
    .object [("action", "remove_item"), ("itemId", itemId.text), ("qty", .number n)]
  | adjustHp n => .object [("action", "adjust_hp"), ("amount", .number n)]
  | adjustCurrency n => .object [("action", "adjust_currency"), ("amount", .number n)]
  | heal amount => .object [("action", "heal"), ("amount", amount.text)]

end Action

namespace Requirement

def variants : List (String × (Entries Json → Checked Requirement)) := [
  ("has_flag", fun f =>
    hasFlag <$> required f (one "key") arg <* noOthers f [one "type", one "key"]),
  ("not_has_flag", fun f =>
    notHasFlag <$> required f (one "key") arg <* noOthers f [one "type", one "key"]),
  ("has_item", fun f =>
    hasItem <$> required f itemIdField arg <* noOthers f [one "type", itemIdField]),
  ("stat_check", fun f =>
    statCheck <$> required f (one "stat") arg <*> required f (one "operator") arg
      <*> optional f (one "value") number 0
      <* noOthers f [one "type", one "stat", one "operator", one "value"])]

def ofJson : Reader Requirement := tagged (one "type") variants

def toJson : Requirement → Json
  | hasFlag key => .object [("type", "has_flag"), ("key", key.text)]
  | notHasFlag key => .object [("type", "not_has_flag"), ("key", key.text)]
  | hasItem itemId => .object [("type", "has_item"), ("itemId", itemId.text)]
  | statCheck stat operator n =>
    .object [("type", "stat_check"), ("stat", stat.text), ("operator", operator.text),
      ("value", .number n)]

end Requirement

/-- The node that a result leads to, as an object with one field. -/
def outcomeOfJson : Reader String :=
  fields fun f => optional f nextNodeIdField string "" <* noOthers f [nextNodeIdField]

def outcomeToJson (nodeId : String) : Json := .object [("nextNodeId", nodeId)]

namespace Mechanic

def checkOfFields (f : Entries Json) : Checked SkillCheck :=
  SkillCheck.mk <$> required f (one "dice") arg <*> optional f (one "dc") number 0
    <*> optional f (one "attribute") (nullable string) none
    <*> required f onSuccessField outcomeOfJson <*> required f onFailureField outcomeOfJson
    <*> optional f failureEncounterField (nullable string) none
    <* noOthers f [one "type", one "dice", one "dc", one "attribute", onSuccessField,
      onFailureField, failureEncounterField]

def variants : List (String × (Entries Json → Checked Mechanic)) := [
  ("navigate", fun f =>
    navigate <$> required f nextNodeIdField arg <* noOthers f [one "type", nextNodeIdField]),
  ("combat_init", fun f =>
    combat <$> required f encounterIdField arg <* noOthers f [one "type", encounterIdField]),
  ("skill_check", fun f => skillCheck <$> checkOfFields f)]

def ofJson : Reader Mechanic := tagged (one "type") variants

def toJson : Mechanic → Json
  | navigate nodeId => .object [("type", "navigate"), ("nextNodeId", nodeId.text)]
  | combat encounterId => .object [("type", "combat_init"), ("encounterId", encounterId.text)]
  | skillCheck c =>
    .object ([("type", Json.string "skill_check"), ("dice", .string c.dice.text),
        ("dc", .number c.difficulty)] ++
      fieldIf "attribute" (c.ability.map .string) ++
      [("onSuccess", outcomeToJson c.onSuccess), ("onFailure", outcomeToJson c.onFailure)] ++
      fieldIf "onFailureEncounterId" (c.failureEncounter.map .string))

end Mechanic

namespace Choice

def ofJson : Reader Choice :=
  fields fun f =>
    Choice.mk <$> required f (one "id") filled <*> optional f (one "label") string ""
      <*> optional f requirementsField (nullable (list Requirement.ofJson)) none
      <*> required f (one "mechanic") Mechanic.ofJson
      <* noOthers f [one "id", one "label", requirementsField, one "mechanic"]

def toJson (c : Choice) : Json :=
  .object ([("id", Json.string c.id.text), ("label", .string c.label)] ++
    fieldIf "visibilityRequirements"
      (c.requirements.map fun rs => .array (rs.map Requirement.toJson)) ++
    [("mechanic", c.mechanic.toJson)])

end Choice

namespace Node

def ofJson : Reader Node :=
  fields fun f =>
    Node.mk <$> required f (one "id") filled <*> required f (one "type") string
      <*> optional f (one "text") string ""
      <*> optional f (one "image") (nullable string) none
      <*> optional f onEnterField (nullable (list Action.ofJson)) none
      <*> optional f (one "choices") (nullable (list Choice.ofJson)) none
      <* noOthers f [one "id", one "type", one "text", one "image", onEnterField, one "choices"]

def toJson (n : Node) : Json :=
  .object ([("id", Json.string n.id.text), ("type", .string n.type), ("text", .string n.text)] ++
    fieldIf "image" (n.image.map .string) ++
    fieldIf "onEnter" (n.onEnter.map fun actions => .array (actions.map Action.toJson)) ++
    fieldIf "choices" (n.choices.map fun choices => .array (choices.map Choice.toJson)))

end Node

namespace Item

def ofJson : Reader Item :=
  fields fun f =>
    Item.mk <$> required f (one "id") filled <*> optional f (one "name") string ""
      <*> required f (one "type") string
      <*> optional f (one "damage") (nullable string) none
      <*> optional f attackBonusField (nullable number) none
      <*> optional f armorBonusField (nullable number) none
      <*> optional f (one "effect") (nullable Action.ofJson) none
      <*> optional f scalingField (nullable string) none
      <*> optional f (one "aoe") (nullable bool) none
      <* noOthers f [one "id", one "name", one "type", one "damage", attackBonusField,
        armorBonusField, one "effect", scalingField, one "aoe"]

def toJson (i : Item) : Json :=
  .object ([("id", Json.string i.id.text), ("name", .string i.name), ("type", .string i.type)] ++
    fieldIf "damage" (i.damage.map .string) ++
    fieldIf "attackBonus" (i.attackBonus.map .number) ++
    fieldIf "acBonus" (i.armorBonus.map .number) ++
    fieldIf "effect" (i.effect.map Action.toJson) ++
    fieldIf "scalingAttribute" (i.scalingAttribute.map .string) ++
    fieldIf "aoe" (i.areaOfEffect.map .bool))

end Item

namespace Enemy

/-- The damage of an enemy that names none. -/
def defaultDamage : Filled := ⟨"1d2", by decide +kernel⟩

def ofJson : Reader Enemy :=
  fields fun f =>
    Enemy.mk <$> required f (one "id") filled <*> optional f (one "name") string ""
      <*> optional f (one "hp") number 1 <*> optional f (one "ac") number 10
      <*> optional f attackBonusField number 0
      <*> optional f (one "damage") filled defaultDamage
      <*> optional f rewardField number 0
      <* noOthers f [one "id", one "name", one "hp", one "ac", attackBonusField, one "damage",
        rewardField]

def toJson (e : Enemy) : Json :=
  .object [("id", e.id.text), ("name", e.name), ("hp", .number e.hp), ("ac", .number e.armor),
    ("attackBonus", .number e.attackBonus), ("damage", e.damage.text),
    ("xpReward", .number e.reward)]

end Enemy

namespace Spawn

def ofJson : Reader Spawn :=
  fields fun f =>
    Spawn.mk <$> required f enemyIdField arg <*> optional f (one "count") number 1
      <* noOthers f [enemyIdField, one "count"]

def toJson (s : Spawn) : Json :=
  .object [("enemyId", s.enemyId.text), ("count", .number s.count)]

end Spawn

namespace Encounter

def resolutionOfJson : Reader (String × String) :=
  fields fun f =>
    Prod.mk <$> optional f onVictoryField outcomeOfJson ""
      <*> optional f onDefeatField outcomeOfJson ""
      <* noOthers f [onVictoryField, onDefeatField]

def ofJson : Reader Encounter :=
  fields fun f =>
    (fun id name spawns (ends : String × String) => Encounter.mk id name spawns ends.1 ends.2)
      <$> required f (one "id") filled
      <*> optional f (one "name") (nullable string) none
      <* optional f (one "type") (literal "combat") ()
      <*> optional f (one "enemies") (list Spawn.ofJson) []
      <*> optional f (one "resolution") resolutionOfJson ("", "")
      <* noOthers f [one "id", one "name", one "type", one "enemies", one "resolution"]

def toJson (e : Encounter) : Json :=
  .object ([("id", Json.string e.id.text)] ++
    fieldIf "name" (e.name.map .string) ++
    [("type", Json.string "combat"), ("enemies", .array (e.spawns.map Spawn.toJson)),
      ("resolution", .object [("onVictory", outcomeToJson e.onVictory),
        ("onDefeat", outcomeToJson e.onDefeat)])])

end Encounter

end Gamebook
