import Gamebook.Check.Diagnostic
import Gamebook.Story.Basic

/-!
# Issues of a story

Everything that checking can find in a story, as causes. `Issue.diagnostic` gives each one its code,
its severity, its wording and its context.
-/

namespace Gamebook

/-- A choice of a node, by their ids. -/
structure ChoicePlace where
  nodeId : String
  choiceId : String
deriving DecidableEq

inductive ChoiceBranch where
  | navigate
  | success
  | failure
deriving DecidableEq

inductive EncounterEnd where
  | victory
  | defeat
deriving DecidableEq

def ChoiceBranch.label : ChoiceBranch → String
  | navigate => "navigate"
  | success => "skill_check onSuccess"
  | failure => "skill_check onFailure"

def EncounterEnd.label : EncounterEnd → String
  | victory => "onVictory"
  | defeat => "onDefeat"

/-- What can be wrong with a story. A reference that leads nowhere is called `ref`. -/
inductive Issue where
  | nodeType (nodeId type : String)
  | choiceTarget (place : ChoicePlace) (branch : ChoiceBranch) (ref : String)
  | combatTarget (place : ChoicePlace) (ref : String)
  | failureEncounter (place : ChoicePlace) (ref : String)
  | checkDice (place : ChoicePlace) (dice : String)
  | checkAbility (place : ChoicePlace) (ability : String)
  | requiredItem (place : ChoicePlace) (ref : String)
  | statOperator (place : ChoicePlace) (operator : String)
  | statName (place : ChoicePlace) (stat : String)
  | enterItem (nodeId action ref : String)
  | noSpawns (encounterId : String)
  | spawnEnemy (encounterId ref : String)
  | resolutionTarget (encounterId : String) (which : EncounterEnd) (ref : String)
  | itemType (itemId type : String)
  | weaponDamage (itemId : String)
  | effectItem (itemId action ref : String)
  | scaling (itemId ability : String)
  | enemyHp (enemyId : String)
  | enemyArmor (enemyId : String)
  | enemyDamage (enemyId damage : String)
  | orphan (nodeId : String)
  | deadEnd (nodeId : String)
deriving DecidableEq

namespace ChoicePlace

def label (p : ChoicePlace) : String :=
  "Node \"" ++ p.nodeId ++ "\" choice \"" ++ p.choiceId ++ "\": "

def context (p : ChoicePlace) : List (String × Json) :=
  [("nodeId", p.nodeId), ("choiceId", p.choiceId)]

end ChoicePlace

namespace Issue

/-- A reference in a context, with the kind of entity that it should name. -/
def reference (ref kind : String) : List (String × Json) := [("ref", ref), ("refType", kind)]

def error (code message : String) (context : List (String × Json)) (hint : Option String) :
    Diagnostic :=
  ⟨code, .error, none, none, none, message, hint, some context⟩

def warning (code message : String) (context : List (String × Json)) (hint : Option String) :
    Diagnostic :=
  ⟨code, .warning, none, none, none, message, hint, some context⟩

def named (s : String) : String := "\"" ++ s ++ "\""

def abilityHint : String := "Use strength, dexterity, or intelligence"

def diagnostic : Issue → Diagnostic
  | nodeType n type =>
    error "DATA006"
      ("Node " ++ named n ++ ": invalid type " ++ named type ++
        ". Must be one of: narrative, encounter, ending")
      [("nodeId", n), ("type", type)] (some "Set type to narrative, encounter, or ending")
  | choiceTarget p branch ref =>
    error "DATA002" (p.label ++ branch.label ++ " targets missing node " ++ named ref)
      (p.context ++ reference ref "node") none
  | combatTarget p ref =>
    error "DATA005" (p.label ++ "combat_init targets missing encounter " ++ named ref)
      (p.context ++ reference ref "encounter") none
  | failureEncounter p ref =>
    error "DATA005" (p.label ++ "skill_check onFailureEncounterId missing encounter " ++ named ref)
      (p.context ++ reference ref "encounter") none
  | checkDice p dice =>
    warning "DATA010" (p.label ++ "skill_check dice " ++ named dice ++ " is not valid notation")
      (p.context ++ [("value", .string dice)]) (some "Use e.g. 1d20+3")
  | checkAbility p ability =>
    error "DATA006" (p.label ++ "skill_check invalid attribute " ++ named ability)
      (p.context ++ [("attribute", .string ability)]) (some abilityHint)
  | requiredItem p ref =>
    error "DATA003" (p.label ++ "has_item references missing item " ++ named ref)
      (p.context ++ reference ref "item") none
  | statOperator p operator =>
    error "DATA006" (p.label ++ "stat_check invalid operator " ++ named operator)
      (p.context ++ [("operator", .string operator)]) (some "Use one of >=, <=, ==, >, <")
  | statName p stat =>
    error "DATA006" (p.label ++ "stat_check invalid stat " ++ named stat)
      (p.context ++ [("stat", .string stat)]) (some "Use hpCurrent or currency")
  | enterItem n action ref =>
    error "DATA003"
      ("Node " ++ named n ++ " onEnter: " ++ action ++ " references missing item " ++ named ref)
      (("nodeId", .string n) :: reference ref "item") none
  | noSpawns e =>
    error "DATA011" ("Encounter " ++ named e ++ ": has no enemies") [("encounterId", e)]
      (some "List at least one enemy as enemyId:count")
  | spawnEnemy e ref =>
    error "DATA004" ("Encounter " ++ named e ++ ": references missing enemy " ++ named ref)
      (("encounterId", .string e) :: reference ref "enemy") none
  | resolutionTarget e which ref =>
    error "DATA002"
      ("Encounter " ++ named e ++ ": " ++ which.label ++ " targets missing node " ++ named ref)
      (("encounterId", .string e) :: reference ref "node") none
  | itemType i type =>
    error "DATA006"
      ("Item " ++ named i ++ ": invalid type " ++ named type ++
        ". Must be one of: weapon, consumable, tool, armor")
      [("itemId", i), ("type", type)] none
  | weaponDamage i =>
    warning "DATA013" ("Item " ++ named i ++ ": weapon missing damage field") [("itemId", i)]
      (some "Use e.g. 1d6+2")
  | effectItem i action ref =>
    error "DATA003"
      ("Item " ++ named i ++ " effect: " ++ action ++ " references missing item " ++ named ref)
      (("itemId", .string i) :: reference ref "item") none
  | scaling i ability =>
    error "DATA006" ("Item " ++ named i ++ ": invalid scalingAttribute " ++ named ability)
      [("itemId", i), ("scalingAttribute", ability)] (some abilityHint)
  | enemyHp e =>
    error "DATA012" ("Enemy " ++ named e ++ ": hp must be > 0") [("enemyId", e)] none
  | enemyArmor e =>
    error "DATA012" ("Enemy " ++ named e ++ ": ac must be >= 0") [("enemyId", e)] none
  | enemyDamage e damage =>
    warning "DATA010"
      ("Enemy " ++ named e ++ ": damage " ++ named damage ++ " is not valid dice notation")
      [("enemyId", e), ("value", damage)] (some "Use e.g. 1d6+2")
  | orphan n =>
    warning "DATA008"
      ("Orphan node " ++ named n ++ ": no inbound edges (unreachable unless it is a start node)")
      [("nodeId", n)] (some "Add a choice or encounter resolution that navigates to this node.")
  | deadEnd n =>
    warning "DATA009"
      ("Dead-end node " ++ named n ++
        ": no outgoing choices (player cannot leave unless type is ending)")
      [("nodeId", n)]
      (some ("Add at least one choice with navigate/combat_init/skill_check, " ++
        "or set type to ending."))

end Issue

end Gamebook
